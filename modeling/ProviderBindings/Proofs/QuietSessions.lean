import ProviderBindings.CommandLine.Program

/-! # Sessions that leave files alone

All that a run does between reading the manifest and saving the module is to write to its two
outputs.  Such a part of a run is `Session.Quiet`: on other files it does the same, and it
leaves them as they are.  The reports, the two commands that only show something, and the
command that writes the module, up to the point where it saves it, are of this kind.

What is told before a module is written goes to the error output, and nothing of it to the other
(`Session.Mute`).
-/
namespace ProviderBindings

namespace Session

variable {α β : Type}

/-- Whether an activity neither looks at the files nor changes them. -/
def Quiet (s : Session α) : Prop :=
  ∀ (w : World) (files : FileTree),
    runOn s { w with files } = ((runOn s w).1, { (runOn s w).2 with files })

theorem Quiet.pure (a : α) : Quiet (Pure.pure a : Session α) := fun _ _ => rfl

theorem Quiet.attempt (x : Except Fault α) : Quiet (attempt x) := by
  cases x <;> exact fun _ _ => rfl

theorem Quiet.exit (status : Nat) : Quiet (exit status : Session α) := fun _ _ => rfl

theorem Quiet.write (text : String) : Quiet (write text) := fun _ _ => rfl

theorem Quiet.print (line : String) : Quiet (print line) := fun _ _ => rfl

theorem Quiet.writeError (text : String) : Quiet (writeError text) := fun _ _ => rfl

theorem Quiet.complain (line : String) : Quiet (complain line) := fun _ _ => rfl

theorem Quiet.bind {s : Session α} {k : α → Session β} (hs : Quiet s) (hk : ∀ a, Quiet (k a)) :
    Quiet (s >>= k) := by
  intro w files
  rw [runOn_bind, runOn_bind, hs w files]
  rcases runOn s w with ⟨_ | a, w'⟩
  · rfl
  · exact hk a w' files

theorem Quiet.forM {f : α → Session Unit} {xs : List α} (h : ∀ a, Quiet (f a)) :
    Quiet (xs.forM f) := by
  induction xs with
  | nil => exact .pure ()
  | cons a rest ih => exact (h a).bind fun _ => ih

/-- A quiet activity leaves the files as they are. -/
theorem Quiet.files_eq {s : Session α} (h : Quiet s) (w : World) :
    (runOn s w).2.files = w.files :=
  congrArg (fun result => result.2.files) (h w w.files)

theorem Quiet.outcome_files {s : Session Nat} (h : Quiet s) (files : FileTree) :
    (outcome s files).files = files := by
  have hfiles := h.files_eq ⟨files, "", ""⟩
  unfold outcome
  cases hrun : runOn s ⟨files, "", ""⟩ with
  | mk result w =>
    rw [hrun] at hfiles
    cases result <;> exact hfiles

/-! ## Activities that write to the error output only -/

/-- Whether an activity leaves the files alone, and the standard output too. -/
structure Mute (s : Session α) : Prop where
  quiet : Quiet s
  out_eq : ∀ w : World, (runOn s w).2.out = w.out

theorem Mute.pure (a : α) : Mute (Pure.pure a : Session α) := ⟨.pure a, fun _ => rfl⟩

theorem Mute.attempt (x : Except Fault α) : Mute (attempt x) :=
  ⟨.attempt x, by cases x <;> exact fun _ => rfl⟩

theorem Mute.complain (line : String) : Mute (complain line) := ⟨.complain line, fun _ => rfl⟩

theorem Mute.bind {s : Session α} {k : α → Session β} (hs : Mute s) (hk : ∀ a, Mute (k a)) :
    Mute (s >>= k) := by
  refine ⟨hs.quiet.bind fun a => (hk a).quiet, fun w => ?_⟩
  have hout := hs.out_eq w
  rw [runOn_bind]
  cases hrun : runOn s w with
  | mk result w' =>
    rw [hrun] at hout
    cases result with
    | error ending => exact hout
    | ok a => exact ((hk a).out_eq w').trans hout

theorem Mute.forM {f : α → Session Unit} {xs : List α} (h : ∀ a, Mute (f a)) :
    Mute (xs.forM f) := by
  induction xs with
  | nil => exact .pure ()
  | cons a rest ih => exact (h a).bind fun _ => ih

theorem Mute.outcome_out {s : Session Nat} (h : Mute s) (files : FileTree) :
    (outcome s files).out = "" := by
  have hout := h.out_eq ⟨files, "", ""⟩
  unfold outcome
  cases hrun : runOn s ⟨files, "", ""⟩ with
  | mk result w =>
    rw [hrun] at hout
    cases result <;> exact hout

/-- A fault keeps what comes after it from happening. -/
theorem attempt_error_bind (fault : Fault) (k : α → Session β) :
    (Session.attempt (.error fault) >>= k) = Session.attempt (.error fault) := rfl

theorem attempt_ok_bind (a : α) (k : α → Session β) :
    (Session.attempt (.ok a) >>= k) = k a := rfl

end Session

namespace Program

open Session

theorem mute_reportErrors (findings : Findings) : Mute (reportErrors findings) := by
  unfold reportErrors
  split
  · exact (Mute.complain _).bind fun _ => (Mute.attempt _).bind fun _ => .complain _
  · exact .pure ()

theorem mute_listWarnings (findings : Findings) : Mute (listWarnings findings) := by
  unfold listWarnings
  split
  · refine (Mute.complain _).bind fun _ => .forM fun _ => ?_
    exact (Mute.attempt _).bind fun _ => .complain _
  · exact .pure ()

theorem quiet_validate (m : Manifest) : Quiet (validate m) :=
  (Quiet.attempt _).bind fun _ => (Quiet.print _).bind fun _ => (Quiet.print _).bind fun _ =>
    (Quiet.attempt _).bind fun _ => (Quiet.print _).bind fun _ => .pure _

theorem quiet_showNetwork (n : Network) : Quiet (showNetwork n) := by
  unfold showNetwork
  refine (Quiet.attempt _).bind fun _ => (Quiet.print _).bind fun _ => ?_
  cases n.isBounded with
  | true =>
    refine (Quiet.attempt _).bind fun _ => (Quiet.print _).bind fun _ => ?_
    cases n.name.string? with
    | none => exact .print _
    | some name => exact (Quiet.print _).bind fun _ => .print _
  | false =>
    refine (Quiet.print _).bind fun _ => ?_
    cases n.name.string? with
    | none => exact .print _
    | some name => exact (Quiet.print _).bind fun _ => .print _

theorem quiet_info (m : Manifest) : Quiet (info m) :=
  ((Quiet.attempt _).bind fun _ => .print _).bind fun _ => (Quiet.print _).bind fun _ =>
    (Quiet.print _).bind fun _ => (Quiet.forM quiet_showNetwork).bind fun _ => .pure _

/-- A module that goes to no file is written without regard to the files. -/
theorem quiet_emit {destination : Option Value}
    (h : ∀ path, destination ≠ some (.string path)) (m : Manifest) (text : String) :
    Quiet (emit m destination text) := by
  unfold emit
  cases destination with
  | none => exact .write text
  | some v =>
    have hpath : pathOf v = .error (.notAPath v.kind) := by
      cases v with
      | string path => exact absurd rfl (h path)
      | _ => rfl
    simp only [hpath, attempt_error_bind]
    exact .attempt _

/-- **The command that writes the module** leaves nothing behind but messages, or it comes to
write: then the checks and the generator have come to an end, what was found is no hindrance, and
there have been nothing but messages before. -/
theorem mute_or_emits (settings : GenerateSettings) (m : Manifest) :
    Mute (generate settings m) ∨ ∃ findings text, Check.all m.networks = .ok findings ∧
      refusal? settings.force findings = none ∧ ProviderModule.generate m.networks = .ok text ∧
      ∃ notices : Session Unit, Mute notices ∧ generate settings m = do
        notices
        emit m (destination? settings m) text
        return 0 := by
  unfold generate
  cases Check.all m.networks with
  | error fault => exact .inl (.attempt (.error fault))
  | ok findings =>
    rw [attempt_ok_bind]
    have hreport := mute_reportErrors findings
    cases hrefusal : refusal? settings.force findings with
    | some reason => exact .inl (hreport.bind fun _ => (Mute.complain _).bind fun _ => .pure 1)
    | none =>
      have hlist := mute_listWarnings findings
      cases ProviderModule.generate m.networks with
      | error fault =>
        exact .inl (hreport.bind fun _ => hlist.bind fun _ => .attempt (.error fault))
      | ok text =>
        refine .inr ⟨findings, text, rfl, hrefusal, rfl,
          do reportErrors findings; listWarnings findings, hreport.bind fun _ => hlist, ?_⟩
        rw [bind_assoc]
        rfl

/-- With regard to the files it comes to write only if there is one for the module to go to. -/
theorem quiet_or_emits (settings : GenerateSettings) (m : Manifest) :
    Quiet (generate settings m) ∨ ∃ findings text path, Check.all m.networks = .ok findings ∧
      refusal? settings.force findings = none ∧ ProviderModule.generate m.networks = .ok text ∧
      destination? settings m = some (.string path) ∧ ∃ notices : Session Unit, Quiet notices ∧
        generate settings m = do
          notices
          emit m (some (.string path)) text
          return 0 := by
  rcases mute_or_emits settings m with
    hmute | ⟨findings, text, hchecked, hrefusal, htext, notices, hnotices, heq⟩
  · exact .inl hmute.quiet
  · by_cases hfile : ∃ path, destination? settings m = some (.string path)
    · obtain ⟨path, hpath⟩ := hfile
      rw [hpath] at heq
      exact .inr ⟨findings, text, path, hchecked, hrefusal, htext, hpath, notices,
        hnotices.quiet, heq⟩
    · rw [not_exists] at hfile
      rw [heq]
      exact .inl (hnotices.quiet.bind fun _ => (quiet_emit hfile m text).bind fun _ => .pure 0)

end Program

end ProviderBindings
