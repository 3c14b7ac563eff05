import Mathlib.Tactic.ByContra
import ProviderBindings.Proofs.ManifestReading
import ProviderBindings.Proofs.Reports
import ProviderBindings.Proofs.RoundTrip
import ProviderBindings.Proofs.Saving

/-! # Whether the module is written, and where

The command that writes the module decides once, on what the checks have found and on
whether it is forced (`Program.Permits`).  If it does not write, the run ends with status
1 and has changed nothing but the error output.  If it does, the text goes to one place,
which the options and the manifest name between them (`Program.chosenFile?`), and there is
nothing of it anywhere else.  `Program.emission_of_generate` is the whole of this.

The reports that come first reach the error output only: `runOn_reportErrors` and
`runOn_listWarnings` say what each of them adds to it.
-/
namespace ProviderBindings

open Session

namespace Program

variable {settings : GenerateSettings} {m : Manifest} {findings : Findings}

/-! ## Reports -/

/-- What is told of errors, given the report. -/
def errorNotice (findings : Findings) (report : String) : String :=
  if findings.isValid then "" else "Validation errors found:\n" ++ (report ++ "\n")

/-- What is told of warnings, given a line for each. -/
def warningNotice (findings : Findings) (lines : List String) : String :=
  if findings.warnings.isEmpty then ""
  else s!"Validation: {findings.warnings.length} warning(s)" ++ "\n" ++
    String.join (lines.map (· ++ "\n"))

theorem runOn_reportErrors {report : String} (h : findings.report = .ok report) (w : World) :
    runOn (reportErrors findings) w =
      (.ok (), { w with err := w.err ++ errorNotice findings report }) := by
  unfold reportErrors errorNotice
  cases findings.isValid with
  | true => simp
  | false => simp [h, String.append_assoc]

theorem runOn_forM_reportLine {vs : List Violation} {lines : List String}
    (h : vs.mapM Findings.reportLine = .ok lines) (w : World) :
    runOn (forM vs fun v => do complain (← attempt (Findings.reportLine v))) w =
      (.ok (), { w with err := w.err ++ String.join (lines.map (· ++ "\n")) }) := by
  induction vs generalizing lines w with
  | nil =>
    cases h
    simp
  | cons v rest ih =>
    obtain ⟨line, others, hline, hothers, rfl⟩ := Attempt.mapM_cons_eq_ok_iff.mp h
    simp [hline, ih hothers, String.append_assoc]

theorem runOn_listWarnings {lines : List String}
    (h : findings.warnings.mapM Findings.reportLine = .ok lines) (w : World) :
    runOn (listWarnings findings) w =
      (.ok (), { w with err := w.err ++ warningNotice findings lines }) := by
  unfold listWarnings warningNotice
  cases findings.warnings.isEmpty with
  | true => simp
  | false => simp [runOn_forM_reportLine h, String.append_assoc]

/-! ## The manifest -/

/-- The run of the command with the given files comes to read the manifest. -/
def Loads (config : Option Options.Given) (files : FileTree) (m : Manifest) : Prop :=
  (runOn (load config) ⟨files, "", ""⟩).1 = .ok m

/-- The command comes to read the manifest exactly when there is one to be read. -/
theorem loads_iff_manifestAt {config : Option Options.Given} {files : FileTree} :
    Loads config files m ↔ manifestAt config files = .ok m := by
  unfold Loads
  rw [runOn_load]
  cases manifestAt config files with
  | ok read => simp
  | error fault =>
    dsimp only
    split <;> simp

/-- A manifest is read if its parts are.  The parts can be compared, which values cannot. -/
theorem loads_of_entries {config : Option Options.Given} {files : FileTree} {output : String}
    {es : List Entry}
    (h : ((runOn (load config) ⟨files, "", ""⟩).1.toOption.map fun m =>
      (m.output.string?, m.networks.mapM ProviderModule.entry?)) = some (some output, some es)) :
    Loads config files ⟨es.map Entry.network, .string output⟩ := by
  obtain ⟨⟨networks, outputValue⟩, hm, hparts⟩ := Option.map_eq_some_iff.mp h
  obtain ⟨houtput, hnetworks⟩ := Prod.mk.inj hparts
  rw [Value.string?_eq_some_iff] at houtput
  rw [ProviderModule.map_network_of_mapM_entry? hnetworks, ← houtput]
  exact Attempt.eq_ok_of_toOption hm

/-- Once the manifest is read, a run is what the command makes of it. -/
theorem outcome_answer_run {config : Option Options.Given} {files : FileTree}
    (h : Loads config files m) (command : Command) :
    outcome (answer (.run config command)) files = outcome (perform m command) files := by
  unfold outcome answer
  rw [runOn_bind, runOn_load, loads_iff_manifestAt.mp h]

theorem run_eq {args : List String} {config : Option Options.Given} {files : FileTree}
    {command : Command} (hargs : Request.ofArgs args = .run config command)
    (hload : Loads config files m) : run args files = outcome (perform m command) files := by
  rw [run, hargs]
  exact outcome_answer_run hload command

/-! ## The decision -/

/-- Whether the module is to be written in spite of what was found: there is no error, or
the command is forced and no error leaves nothing to generate from. -/
def Permits (force : Bool) (findings : Findings) : Prop :=
  findings.errors = [] ∨
    force = true ∧ ∀ v ∈ findings.errors, v.code ≠ Code.invalidName ∧ v.code ≠ Code.invalidUrl

theorem refusal?_eq_none_iff (force : Bool) (findings : Findings) :
    refusal? force findings = none ↔ Permits force findings := by
  have hany : (findings.errors.any fun v => Code.unrenderable.contains v.code) = false ↔
      ∀ v ∈ findings.errors, v.code ≠ Code.invalidName ∧ v.code ≠ Code.invalidUrl := by
    simp [List.any_eq_false, Code.unrenderable]
  unfold refusal? Permits
  rw [← Findings.isValid_iff_errors_eq_nil, ← hany]
  cases findings.isValid with
  | true => simp
  | false => cases findings.errors.any fun v => Code.unrenderable.contains v.code <;> simp

/-- Without an error, forcing the command makes no difference to it. -/
theorem generate_of_isValid (hchecked : Check.all m.networks = .ok findings)
    (hvalid : findings.isValid = true) (force : Bool) :
    generate { settings with force } m = generate settings m := by
  have hrefusal : ∀ force, refusal? force findings = none := fun _ => if_pos hvalid
  unfold generate
  rw [hchecked]
  simp only [attempt, pure_bind, hrefusal]
  rfl

/-! ## The destination -/

/-- The path that the option gives, which is empty if it gives none. -/
def optionPath (settings : GenerateSettings) : String :=
  match settings.output with
  | some (.text path) => path
  | _ => ""

/-- The file that the module goes to, if it goes to one: the first path that is not empty,
of the option's and the manifest's, unless the module is to be printed. -/
def chosenFile? (settings : GenerateSettings) (configured : String) : Option String :=
  if settings.stdout then none else [optionPath settings, configured].find? (· ≠ "")

theorem destination?_eq {configured : String} (h : m.output = .string configured) :
    destination? settings m = (chosenFile? settings configured).map Value.string := by
  have hempty : ∀ path : String, (Value.string path).isEmpty = (path == "") := fun _ => rfl
  have houtput : outputOf settings m =
      .string (if optionPath settings = "" then configured else optionPath settings) := by
    unfold outputOf optionPath
    -- an option without a text counts as none, as one with an empty text does
    rcases settings.output with _ | path | _
    · exact h
    · simp only [valueOf, hempty, beq_iff_eq, h]
      split <;> rfl
    · exact h
  unfold destination? chosenFile?
  simp only [houtput, hempty]
  cases settings.stdout with
  | true => simp
  | false =>
    by_cases hoption : optionPath settings = ""
    · by_cases hconfigured : configured = "" <;> simp [hoption, hconfigured]
    · simp [hoption]

/-- The line that says what was written. -/
def receipt (path : String) (count : Nat) (text : String) : String :=
  s!"  networks: wrote {path} ({count} networks, {text.length} bytes)" ++ "\n"

theorem receipt_ne_empty (path : String) (count : Nat) (text : String) :
    receipt path count text ≠ "" := by
  unfold receipt
  intro h
  exact absurd (String.append_eq_empty_iff.mp h).2 (by decide)

/-- Whether a text can be written to the file at a path. -/
def CanSave (files : FileTree) (path text : String) : Prop :=
  (files.save (.ofString path) (Text.Utf8.encode text.toList)).2 = .ok ()

/-- A run has sent a text to one place, a file or the standard output, and to no other. -/
def Delivers (files : FileTree) (count : Nat) (text : String) (o : Outcome) :
    Option String → Prop
  | none => o.out = text ∧ o.files = files
  | some path => o.out = receipt path count text ∧
      FileTree.Saved (.ofString path) (Text.Utf8.encode text.toList) files o.files

/-- A run has sent a text somewhere. -/
def Emits (files : FileTree) (count : Nat) (text : String) (o : Outcome) : Prop :=
  ∃ place, Delivers files count text o place

/-- A run has come to nothing: it ends with status 1, and all that it has left is what it
told on the error output. -/
structure Refuses (files : FileTree) (o : Outcome) : Prop where
  ending : o.ending = .exit 1
  out : o.out = ""
  files : o.files = files

theorem Refuses.not_emits {files : FileTree} {o : Outcome} (h : Refuses files o) {count : Nat}
    {text : String} (htext : text ≠ "") : ¬ Emits files count text o := by
  rintro ⟨_ | path, hdelivers⟩
  · exact htext (hdelivers.1.symm.trans h.out)
  · exact receipt_ne_empty path count text (hdelivers.1.symm.trans h.out)

/-! ## The run -/

theorem generate_ne_empty {networks : List Network} {text : String}
    (h : ProviderModule.generate networks = .ok text) : text ≠ "" := by
  obtain ⟨declarations, accessors, -, rfl⟩ := ProviderModule.generate_eq_ok_iff.mp h
  unfold ProviderModule.assemble
  intro hempty
  have hopening := (String.append_eq_empty_iff.mp
    (String.append_eq_empty_iff.mp (String.append_eq_empty_iff.mp hempty).1).1).1
  exact absurd hopening (by decide)

/-- A refused run stops after the report. -/
theorem refuses_of_refusal {files : FileTree} {reason report : String}
    (hchecked : Check.all m.networks = .ok findings) (hreport : findings.report = .ok report)
    (hrefusal : refusal? settings.force findings = some reason) :
    Refuses files (outcome (generate settings m) files) := by
  have hrun : runOn (generate settings m) ⟨files, "", ""⟩ =
      (.ok 1, ⟨files, "", errorNotice findings report ++ (reason ++ "\n")⟩) := by
    unfold generate
    simp [hchecked, runOn_reportErrors hreport, hrefusal]
  unfold outcome
  rw [hrun]
  exact ⟨rfl, rfl, rfl⟩

/-- Whatever was told before, a text that can be written reaches its place. -/
theorem delivers_of_emit {files : FileTree} {place : Option String} {text : String}
    (hplace : ∀ path, place = some path → CanSave files path text) (err : String) :
    ∃ w, runOn (emit m (place.map Value.string) text) ⟨files, "", err⟩ = (.ok (), w) ∧
      Delivers files m.networks.length text ⟨.exit 0, w.out, w.err, w.files⟩ place := by
  cases place with
  | none => exact ⟨⟨files, text, err⟩, by simp [emit], rfl, rfl⟩
  | some path =>
    -- the receipt is printed only after the file is saved
    have hsave := hplace path rfl
    unfold CanSave at hsave
    cases hsaved : files.save (.ofString path) (Text.Utf8.encode text.toList) with
    | mk saved result =>
      rw [hsaved] at hsave
      cases hsave
      refine ⟨⟨saved, receipt path m.networks.length text, err⟩, ?_, rfl,
        FileTree.saved_of_save hsaved⟩
      unfold receipt
      simp only [emit, pathOf, Option.map_some, runOn_bind, runOn_attempt_ok, runOn_save, hsaved,
        runOn_print, String.empty_append]

/-- A permitted run that has come through its reports writes the module where it is to go. -/
theorem delivers_of_reports {files : FileTree} {place : Option String} {text err : String}
    {lines : List String} (hchecked : Check.all m.networks = .ok findings)
    (hreported : runOn (reportErrors findings) ⟨files, "", ""⟩ = (.ok (), ⟨files, "", err⟩))
    (hlines : findings.warnings.mapM Findings.reportLine = .ok lines)
    (hpermission : refusal? settings.force findings = none)
    (htext : ProviderModule.generate m.networks = .ok text)
    (hdestination : destination? settings m = place.map Value.string)
    (hplace : ∀ path, place = some path → CanSave files path text) :
    (outcome (generate settings m) files).ending = .exit 0 ∧
      Delivers files m.networks.length text (outcome (generate settings m) files) place := by
  obtain ⟨w, hemit, hdelivers⟩ := delivers_of_emit (m := m) hplace
    (err ++ warningNotice findings lines)
  have hrun : runOn (generate settings m) ⟨files, "", ""⟩ = (.ok 0, w) := by
    unfold generate
    simp [hchecked, hreported, hpermission, runOn_listWarnings hlines, htext, hdestination, hemit]
  unfold outcome
  rw [hrun]
  exact ⟨rfl, hdelivers⟩

/-- A permitted run writes the module where it is to go. -/
theorem delivers_of_permission {files : FileTree} {configured report text : String}
    {lines : List String} (houtput : m.output = .string configured)
    (hchecked : Check.all m.networks = .ok findings) (hreport : findings.report = .ok report)
    (hlines : findings.warnings.mapM Findings.reportLine = .ok lines)
    (hpermission : refusal? settings.force findings = none)
    (htext : ProviderModule.generate m.networks = .ok text)
    (hplace : ∀ path, chosenFile? settings configured = some path → CanSave files path text) :
    (outcome (generate settings m) files).ending = .exit 0 ∧
      Delivers files m.networks.length text (outcome (generate settings m) files)
        (chosenFile? settings configured) :=
  delivers_of_reports hchecked (runOn_reportErrors hreport ⟨files, "", ""⟩) hlines hpermission htext
    (destination?_eq houtput) hplace

/-- **What the command that writes the module does**, on every manifest that is read and
under all its options.  Unless what was found permits the module, the run comes to nothing.
If it does, and the module has a text that can be written, then the text is sent to the
place that is chosen and to no other, with status 0; so a text is sent exactly when it is
permitted.  Without an error, forcing makes no difference to anything.

Reports show the positions of networks, so these must have a text: the length of the
manifest has to be within the limit on decimal digits, as that of every list in a memory
is. -/
theorem emission_of_generate {config : Option Options.Given} {files : FileTree}
    {configured : String} (hload : Loads config files m) (houtput : m.output = .string configured)
    (hcount : IsShort m.networks.length) (hchecked : Check.all m.networks = .ok findings) :
    let o := outcome (answer (.run config (.generate settings))) files
    (¬ Permits settings.force findings → Refuses files o) ∧
      (∀ text, ProviderModule.generate m.networks = .ok text →
        (∀ path, chosenFile? settings configured = some path → CanSave files path text) →
          (Emits files m.networks.length text o ↔ Permits settings.force findings) ∧
            (Permits settings.force findings → o.ending = .exit 0 ∧
              Delivers files m.networks.length text o (chosenFile? settings configured))) ∧
      (findings.errors = [] → ∀ force,
        outcome (answer (.run config (.generate { settings with force }))) files = o) := by
  intro o
  have ho : o = outcome (generate settings m) files := outcome_answer_run hload _
  obtain ⟨report, hreport⟩ := Check.report_eq_ok hchecked hcount
  obtain ⟨lines, hlines⟩ := Findings.mapM_reportLine_eq_ok fun v hv =>
    Check.isShort_index hchecked hcount v (Findings.mem_of_mem_warnings hv)
  have hrefuses : ¬ Permits settings.force findings → Refuses files o := by
    intro h
    rw [← refusal?_eq_none_iff, ← ne_eq, Option.ne_none_iff_exists'] at h
    obtain ⟨reason, hreason⟩ := h
    rw [ho]
    exact refuses_of_refusal hchecked hreport hreason
  refine ⟨hrefuses, ?_, ?_⟩
  · intro text htext hplace
    have hdelivers : Permits settings.force findings → o.ending = .exit 0 ∧
        Delivers files m.networks.length text o (chosenFile? settings configured) := by
      intro h
      rw [ho]
      exact delivers_of_permission houtput hchecked hreport hlines
        ((refusal?_eq_none_iff _ _).mpr h) htext hplace
    refine ⟨⟨?_, fun h => ⟨_, (hdelivers h).2⟩⟩, hdelivers⟩
    -- a run that came to nothing has left the standard output empty, and no text is empty
    intro hemits
    by_contra h
    exact (hrefuses h).not_emits (generate_ne_empty htext) hemits
  · intro herrors force
    rw [ho, outcome_answer_run hload]
    exact congrArg (outcome · files) (generate_of_isValid hchecked
      (Findings.isValid_iff_errors_eq_nil.mpr herrors) force)

/-- A manifest with a name that derives no identifier, as it is written. -/
def badNameText : String :=
  "[output]\npath = \"gen/providers.rs\"\n\n[[networks]]\nname = \"1st chain\"\nurl = \"£\"\n"

/-- The manifest that `badNameText` is. -/
def badName : Manifest :=
  ⟨[⟨.string "1st chain", .string "£", .absent⟩], .string "gen/providers.rs"⟩

/-- The manifest alone in the working directory. -/
def badNameFiles : FileTree :=
  ⟨[(["netbindgen.toml"], .file (Text.Utf8.encode badNameText.toList))]⟩

/-- What the checks find in the manifest. -/
def badNameError : Violation :=
  ⟨.error, Code.invalidIdentifier,
    "Name '1st chain' derives '1ST CHAIN_PROVIDER', which is not a valid identifier", 0,
    "1st chain", "name"⟩

theorem loads_badName : Loads none badNameFiles badName :=
  @loads_of_entries none badNameFiles "gen/providers.rs" [⟨"1st chain", "£", none⟩]
    (by decide +kernel)

theorem all_badName : Check.all badName.networks = .ok [badNameError] :=
  Attempt.eq_ok_of_toOption (by decide +kernel)

/-- Forced, with an option that gives an empty path. -/
theorem badName_emission : Loads none badNameFiles badName ∧
    badName.output = .string "gen/providers.rs" ∧ IsShort badName.networks.length ∧
    Check.all badName.networks = .ok [badNameError] ∧
    ∃ text, ProviderModule.generate badName.networks = .ok text ∧
      let o := outcome (answer (.run none (.generate ⟨some (.text ""), false, true⟩))) badNameFiles
      o.ending = .exit 0 ∧ Delivers badNameFiles 1 text o (some "gen/providers.rs") := by
  have hcount : IsShort badName.networks.length := by decide
  have hpermits : Permits true [badNameError] := by
    right
    decide
  obtain ⟨text, htext, hsave⟩ : ∃ text, ProviderModule.generate badName.networks = .ok text ∧
      CanSave badNameFiles "gen/providers.rs" text :=
    ⟨(ProviderModule.generate badName.networks).toOption.getD "", rfl,
      Attempt.eq_ok_of_toOption (by decide +kernel)⟩
  have hplace : ∀ path, chosenFile? ⟨some (.text ""), false, true⟩ "gen/providers.rs" = some path →
      CanSave badNameFiles path text := by
    rintro path ⟨⟩
    exact hsave
  obtain ⟨-, hpermitted, -⟩ := @emission_of_generate ⟨some (.text ""), false, true⟩ _ _ _ _ _
    loads_badName rfl hcount all_badName
  exact ⟨loads_badName, rfl, hcount, all_badName, text, htext,
    (hpermitted text htext hplace).2 hpermits⟩

end Program

end ProviderBindings
