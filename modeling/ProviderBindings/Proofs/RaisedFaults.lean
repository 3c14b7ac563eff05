import ProviderBindings.Proofs.StringFields

/-! # The faults with which a run ends

A run can end with a fault of files or of documents, with a path that is none, or with an integer
that cannot be shown (`Program.endsRuns_of_run`).  All other faults are those of operations that no
command comes to carry out.  One of these is to derive an identifier from a value that is no
string: the command that writes the module would do so, were it not for the codes that keep it
from generating (`Program.strings_of_permission`).

What the parts of an activity may end with, the whole may end with (`Session.EndsWith.bind`), so
the faults are followed from files and values up to the commands.
-/
namespace ProviderBindings

open Attempt

/-- Whether a fault is one with which a run can end. -/
def Fault.endsRuns : Fault → Bool
  | .integerTooLong | .notAPath _ => true
  | fault => fault.isOfFiles || fault.isOfDocuments

theorem Fault.endsRuns_of_isOfFiles {fault : Fault} (h : fault.isOfFiles = true) :
    fault.endsRuns = true := by
  cases fault <;> first | rfl | cases h

theorem Fault.endsRuns_of_isOfDocuments {fault : Fault} (h : fault.isOfDocuments = true) :
    fault.endsRuns = true := by
  cases fault <;> first | exact h | rfl

/-! ## Files -/

namespace FileTree

variable {t : FileTree} {p : Path} {bytes : List UInt8} {fault : Fault}

theorem isOfFiles_fault (p : Path) (o : Obstacle) : (o.fault p).isOfFiles = true := by
  cases o <;> rfl

theorem isOfFiles_of_write (h : t.write p bytes = .error fault) : fault.isOfFiles = true := by
  unfold write at h
  split at h
  · cases h
    rfl
  · split at h
    · cases h
      exact isOfFiles_fault ..
    · split at h
      · cases h
        rfl
      · cases h

theorem isOfFiles_of_ensureDirectory (h : (t.ensureDirectory p).2 = .error fault) :
    fault.isOfFiles = true := by
  unfold ensureDirectory at h
  split at h
  · cases h
  · split at h
    · cases h
    · cases h
      exact isOfFiles_fault ..

theorem isOfFiles_of_ensureDirectories {reversed : List String}
    (h : (t.ensureDirectories reversed).2 = .error fault) : fault.isOfFiles = true := by
  induction reversed generalizing t with
  | nil => exact isOfFiles_of_ensureDirectory h
  | cons part above ih =>
    unfold ensureDirectories at h
    dsimp only at h
    split at h
    · -- the directories above come first
      cases habove : t.ensureDirectories above with
      | mk t' result =>
        rw [habove] at h
        cases result with
        | ok _ => exact isOfFiles_of_ensureDirectory h
        | error cause =>
          cases h
          exact ih (congrArg Prod.snd habove)
    · exact isOfFiles_of_ensureDirectory h

theorem isOfFiles_of_save (h : (t.save p bytes).2 = .error fault) : fault.isOfFiles = true := by
  unfold save at h
  split at h
  · cases h
    rfl
  · cases habove : t.ensureDirectories p.parent.parts.reverse with
    | mk t' result =>
      rw [habove] at h
      cases result with
      | error cause =>
        cases h
        exact isOfFiles_of_ensureDirectories (congrArg Prod.snd habove)
      | ok _ =>
        cases hwrite : t'.write p bytes with
        | ok t'' =>
          simp only [hwrite] at h
          cases h
        | error cause =>
          simp only [hwrite] at h
          cases h
          exact isOfFiles_of_write hwrite

end FileTree

/-! ## Sessions -/

namespace Session

variable {α β : Type} {allowed : Fault → Bool}

/-- Whether the faults with which an activity may end the run are all allowed. -/
def EndsWith (allowed : Fault → Bool) (s : Session α) : Prop :=
  ∀ w fault, (runOn s w).1 = .error (.fault fault) → allowed fault = true

theorem EndsWith.pure (a : α) : EndsWith allowed (Pure.pure a : Session α) := by
  intro w fault h
  cases h

theorem EndsWith.attempt {x : Except Fault α} (h : ∀ fault, x = .error fault → allowed fault = true) :
    EndsWith allowed (attempt x) := by
  intro w fault hend
  cases x with
  | ok a => cases hend
  | error cause =>
    cases hend
    exact h _ rfl

theorem EndsWith.exit (status : Nat) : EndsWith allowed (exit status : Session α) := by
  intro w fault h
  cases h

theorem EndsWith.write (text : String) : EndsWith allowed (write text) := by
  intro w fault h
  cases h

theorem EndsWith.print (line : String) : EndsWith allowed (print line) := .write _

theorem EndsWith.writeError (text : String) : EndsWith allowed (writeError text) := by
  intro w fault h
  cases h

theorem EndsWith.complain (line : String) : EndsWith allowed (complain line) := .writeError _

theorem EndsWith.save (path : Path) (bytes : List UInt8) :
    EndsWith Fault.isOfFiles (save path bytes) := by
  intro w fault h
  rw [runOn_save] at h
  cases hsaved : w.files.save path bytes with
  | mk files result =>
    rw [hsaved] at h
    cases result with
    | ok _ => cases h
    | error cause =>
      cases h
      exact FileTree.isOfFiles_of_save (congrArg Prod.snd hsaved)

theorem EndsWith.mono {more : Fault → Bool} {s : Session α} (h : EndsWith allowed s)
    (hmore : ∀ fault, allowed fault = true → more fault = true) : EndsWith more s :=
  fun w fault hend => hmore fault (h w fault hend)

theorem EndsWith.bind {s : Session α} {k : α → Session β} (hs : EndsWith allowed s)
    (hk : ∀ a, EndsWith allowed (k a)) : EndsWith allowed (s >>= k) := by
  intro w fault h
  rw [runOn_bind] at h
  cases hrun : runOn s w with
  | mk result w' =>
    rw [hrun] at h
    cases result with
    | ok a => exact hk a w' fault h
    | error ending =>
      cases h
      exact hs w fault (congrArg Prod.fst hrun)

theorem EndsWith.forM {f : α → Session Unit} {xs : List α} (h : ∀ a, EndsWith allowed (f a)) :
    EndsWith allowed (xs.forM f) := by
  induction xs with
  | nil => exact .pure ()
  | cons a rest ih => exact (h a).bind fun _ => ih

end Session

/-! ## Texts -/

theorem integerText_failsOnlyWith (n : Int) : FailsOnlyWith .integerTooLong (integerText n) := by
  unfold integerText
  split
  · exact .ok _
  · exact .error

theorem Violation.text_failsOnlyWith (v : Violation) : FailsOnlyWith .integerTooLong v.text :=
  ((integerText_failsOnlyWith v.index).bind fun _ => .ok _).bind fun _ => .ok _

theorem Findings.reportLine_failsOnlyWith (v : Violation) :
    FailsOnlyWith .integerTooLong (reportLine v) :=
  v.text_failsOnlyWith.bind fun _ => .ok _

theorem Findings.report_failsOnlyWith (f : Findings) : FailsOnlyWith .integerTooLong f.report := by
  unfold report
  split
  · exact .ok _
  · exact (FailsOnlyWith.mapM fun v _ => reportLine_failsOnlyWith v).bind fun _ => .ok _

theorem Network.text_failsOnlyWith (n : Network) : FailsOnlyWith .integerTooLong n.text :=
  n.name.text_failsOnlyWith.bind fun _ => n.url.text_failsOnlyWith.bind fun _ => .ok _

/-! ## The commands -/

namespace Program

open Session

variable {α : Type}

theorem endsWith_attempt {x : Except Fault α} (h : FailsOnlyWith .integerTooLong x) :
    EndsWith Fault.endsRuns (attempt x) := by
  refine .attempt fun fault hfault => ?_
  rw [h fault hfault]
  rfl

theorem endsRuns_of_manifestAt {config : Option Options.Given} {files : FileTree} {fault : Fault}
    (h : manifestAt config files = .error fault) : fault.endsRuns = true := by
  rcases bind_eq_error_iff.mp h with hpath | ⟨path, -, h⟩
  · rcases config with _ | _ | _ <;> cases hpath
    rfl
  · rcases bind_eq_error_iff.mp h with hread | ⟨bytes, -, hbytes⟩
    · exact Fault.endsRuns_of_isOfFiles (FileTree.isOfFiles_of_read hread)
    · exact Fault.endsRuns_of_isOfDocuments (Manifest.isOfDocuments_of_ofBytes hbytes)

theorem endsWith_load (config : Option Options.Given) :
    EndsWith Fault.endsRuns (load config) := by
  intro w fault h
  rw [runOn_load] at h
  cases hm : manifestAt config w.files with
  | ok m =>
    rw [hm] at h
    cases h
  | error cause =>
    rw [hm] at h
    dsimp only at h
    split at h
    · cases h
    · cases h
      exact endsRuns_of_manifestAt hm

theorem endsWith_reportErrors (findings : Findings) :
    EndsWith Fault.endsRuns (reportErrors findings) := by
  unfold reportErrors
  split
  · exact (EndsWith.complain _).bind fun _ =>
      (endsWith_attempt findings.report_failsOnlyWith).bind fun _ => .complain _
  · exact .pure ()

theorem endsWith_listWarnings (findings : Findings) :
    EndsWith Fault.endsRuns (listWarnings findings) := by
  unfold listWarnings
  split
  · refine (EndsWith.complain _).bind fun _ => .forM fun v => ?_
    exact (endsWith_attempt (Findings.reportLine_failsOnlyWith v)).bind fun _ => .complain _
  · exact .pure ()

theorem endsWith_emit (m : Manifest) (destination : Option Value) (text : String) :
    EndsWith Fault.endsRuns (emit m destination text) := by
  unfold emit
  cases destination with
  | none => exact .write text
  | some v =>
    have hpath : ∀ fault, pathOf v = .error fault → fault.endsRuns = true := by
      intro fault h
      cases v <;> cases h <;> rfl
    exact (EndsWith.attempt hpath).bind fun _ =>
      ((EndsWith.save _ _).mono fun _ => Fault.endsRuns_of_isOfFiles).bind fun _ => .print _

/-- The command that writes the module comes to the generator only with strings for names. -/
theorem endsWith_generate (settings : GenerateSettings) (m : Manifest) :
    EndsWith Fault.endsRuns (generate settings m) := by
  unfold generate
  cases hchecked : Check.all m.networks with
  | error fault =>
    rw [attempt_error_bind, Check.all_failsOnlyWith m.networks fault hchecked]
    exact endsWith_attempt .error
  | ok findings =>
    rw [attempt_ok_bind]
    refine (endsWith_reportErrors findings).bind fun _ => ?_
    cases hrefusal : refusal? settings.force findings with
    | some reason => exact (EndsWith.complain reason).bind fun _ => .pure 1
    | none =>
      have hnames : ∀ n ∈ m.networks, ∃ name, n.name = .string name := fun n hn =>
        (strings_of_permission hchecked hrefusal n hn).1
      exact (endsWith_listWarnings findings).bind fun _ =>
        (endsWith_attempt (ProviderModule.generate_failsOnlyWith hnames)).bind fun text =>
          (endsWith_emit m _ text).bind fun _ => .pure 0

theorem endsWith_validate (m : Manifest) :
    EndsWith Fault.endsRuns (validate m) :=
  (endsWith_attempt (Check.all_failsOnlyWith m.networks)).bind fun findings =>
    (EndsWith.print _).bind fun _ => (EndsWith.print _).bind fun _ =>
      (endsWith_attempt findings.report_failsOnlyWith).bind fun _ =>
        (EndsWith.print _).bind fun _ => .pure _

theorem endsWith_showNetwork (n : Network) : EndsWith Fault.endsRuns (showNetwork n) := by
  unfold showNetwork
  refine (endsWith_attempt n.text_failsOnlyWith).bind fun _ => (EndsWith.print _).bind fun _ => ?_
  cases n.isBounded with
  | true =>
    refine (endsWith_attempt n.computeUnits.text_failsOnlyWith).bind fun _ =>
      (EndsWith.print _).bind fun _ => ?_
    cases n.name.string? with
    | none => exact .print _
    | some name => exact (EndsWith.print _).bind fun _ => .print _
  | false =>
    refine (EndsWith.print _).bind fun _ => ?_
    cases n.name.string? with
    | none => exact .print _
    | some name => exact (EndsWith.print _).bind fun _ => .print _

theorem endsWith_info (m : Manifest) : EndsWith Fault.endsRuns (info m) := by
  have hpath : FailsOnlyWith .integerTooLong
      (if m.output.isEmpty then .ok "(stdout)" else m.output.text) := by
    split
    · exact .ok _
    · exact m.output.text_failsOnlyWith
  have hshown : EndsWith Fault.endsRuns (showOutput m) :=
    (endsWith_attempt hpath).bind fun _ => .print _
  exact hshown.bind fun _ => (EndsWith.print _).bind fun _ => (EndsWith.print _).bind fun _ =>
    (EndsWith.forM endsWith_showNetwork).bind fun _ => .pure 0

theorem endsWith_perform (m : Manifest) (command : Command) :
    EndsWith Fault.endsRuns (perform m command) := by
  cases command with
  | generate settings => exact endsWith_generate settings m
  | validate => exact endsWith_validate m
  | info => exact endsWith_info m

theorem endsWith_answer (request : Request) :
    EndsWith Fault.endsRuns (answer request) := by
  cases request with
  | help usage => exact (EndsWith.write _).bind fun _ => .pure 0
  | misuse usage problem => exact (EndsWith.writeError _).bind fun _ => .pure 2
  | run config command =>
    exact (endsWith_load config).bind fun m => endsWith_perform m command

/-- **The faults of runs.**  Whatever the arguments and the files, a run ends with a status or
with a fault of those with which a run can end. -/
theorem endsRuns_of_run {args : List String} {files : FileTree} {fault : Fault}
    (h : (run args files).ending = .fault fault) : fault.endsRuns = true := by
  unfold run outcome at h
  cases hrun : runOn (answer (Request.ofArgs args)) ⟨files, "", ""⟩ with
  | mk result w =>
    rw [hrun] at h
    cases result with
    | ok status => cases h
    | error ending =>
      cases h
      exact endsWith_answer _ _ fault (congrArg Prod.fst hrun)

end Program

end ProviderBindings
