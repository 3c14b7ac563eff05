import ProviderBindings.Proofs.Agreement
import ProviderBindings.Proofs.StableReport

/-! # What is told of a finding

Both commands that check a manifest tell what was found.  The one that checks it prints the report.
The one that writes the module tells on the error output: the report, if there is an error, and
then either why it goes no further or the list of warnings.  What each of them tells is a list of
notices (`Program.shown` and `Program.told`), which says in the text of which line every finding
stands.  So every finding is told by the one as by the other, except that a run which is forced
past errors tells a warning twice (`Program.generate_tells`).
-/
namespace ProviderBindings

/-- A line that a command tells: a remark of its own, or something that was found. -/
inductive Notice
  | remark (line : String)
  | finding (v : Violation)
  deriving DecidableEq, Repr

namespace Notice

variable {text : Violation → String}

/-- A notice as a line, given the texts of violations. -/
def line (text : Violation → String) : Notice → String
  | .remark line => line
  | .finding v => "  " ++ text v

/-- Notices, each on a line of its own. -/
def written (text : Violation → String) (notices : List Notice) : String :=
  String.join (notices.map fun notice => notice.line text ++ "\n")

theorem written_append (notices more : List Notice) :
    written text (notices ++ more) = written text notices ++ written text more := by
  rw [written, List.map_append, String.join_append]
  rfl

theorem written_cons (notice : Notice) (notices : List Notice) :
    written text (notice :: notices) = notice.line text ++ "\n" ++ written text notices := by
  rw [written, List.map_cons, String.join_cons]
  rfl

/-- Lines with an end of line between two of them, and one after the last. -/
theorem intercalate_append_lineEnd (line : String) (lines : List String) :
    "\n".intercalate (line :: lines) ++ "\n" =
      line ++ "\n" ++ String.join (lines.map (· ++ "\n")) := by
  induction lines generalizing line with
  | nil => simp
  | cons next rest ih =>
    rw [String.intercalate_cons_cons, String.append_assoc, ih, List.map_cons, String.join_cons]

theorem count_remark_cons (v : Violation) (line : String) (notices : List Notice) :
    (remark line :: notices).count (finding v) = notices.count (finding v) :=
  List.count_cons_of_ne (by simp)

theorem count_map_finding (vs : List Violation) (v : Violation) :
    (vs.map finding).count (finding v) = vs.count v :=
  List.count_map_of_injective vs finding (fun _ _ => finding.inj) v

end Notice

namespace Findings

variable {f : Findings} {report : String} {text : Violation → String}

/-- The lines of a report. -/
def notices (f : Findings) : List Notice :=
  if f.isEmpty then [.remark "No violations found."]
  else .remark f.summary :: f.grouped.map .finding

/-- The lines of a report make the report. -/
theorem written_notices (hreport : f.report = .ok report)
    (htext : ∀ v ∈ f, v.text = .ok (text v)) :
    Notice.written text f.notices = report ++ "\n" := by
  unfold Findings.report at hreport
  unfold notices
  cases hempty : f.isEmpty with
  | true =>
    rw [hempty, if_pos rfl] at hreport
    cases hreport
    rfl
  | false =>
    rw [hempty, if_neg Bool.false_ne_true,
      mapM_reportLine_of_text fun v hv => htext v (mem_grouped_iff.mp hv)] at hreport
    cases hreport
    rw [if_neg Bool.false_ne_true, Notice.intercalate_append_lineEnd, Notice.written_cons]
    simp [Notice.written, Notice.line, Function.comp_def]

/-- A report tells each finding as often as it was found. -/
theorem count_notices (f : Findings) (v : Violation) :
    f.notices.count (.finding v) = f.count v := by
  unfold notices
  cases hempty : f.isEmpty with
  | true =>
    rw [List.isEmpty_iff.mp hempty]
    rfl
  | false =>
    rw [if_neg Bool.false_ne_true, Notice.count_remark_cons, Notice.count_map_finding]
    exact (isStableOrder_grouped f).perm.count_eq v

theorem count_warnings (f : Findings) (v : Violation) :
    f.warnings.count v = if v.severity = .warning then f.count v else 0 := by
  have hwarning : v.isWarning = true ↔ v.severity = .warning := beq_iff_eq
  split
  · rename_i h
    exact List.count_filter (hwarning.mpr h)
  · rename_i h
    exact List.count_eq_zero.mpr fun hv => h (hwarning.mp (List.mem_filter.mp hv).2)

end Findings

namespace Program

open Session

variable {m : Manifest} {findings : Findings} {files : FileTree} {report : String}
  {settings : GenerateSettings} {text : Violation → String}

/-! ## The notices of the commands -/

/-- The line with the number of networks. -/
def countLine (m : Manifest) : String := s!"Networks: {m.networks.length}" ++ "\n"

/-- What the command that checks a manifest tells on the standard output. -/
def shown (count : Nat) (findings : Findings) : List Notice :=
  .remark s!"Networks: {count}" :: .remark "" :: findings.notices

/-- What the command that writes the module tells of errors. -/
def toldOfErrors (findings : Findings) : List Notice :=
  if findings.isValid then [] else .remark "Validation errors found:" :: findings.notices

/-- What it tells of warnings. -/
def toldOfWarnings (findings : Findings) : List Notice :=
  if findings.warnings.isEmpty then []
  else .remark s!"Validation: {findings.warnings.length} warning(s)" ::
    findings.warnings.map .finding

/-- What it tells on the error output: of errors first, and then why it goes no further, or of
warnings. -/
def told (force : Bool) (findings : Findings) : List Notice :=
  toldOfErrors findings ++
    match refusal? force findings with
    | some reason => [.remark reason]
    | none => toldOfWarnings findings

theorem written_toldOfErrors (hreport : findings.report = .ok report)
    (htext : ∀ v ∈ findings, v.text = .ok (text v)) :
    Notice.written text (toldOfErrors findings) = errorNotice findings report := by
  unfold toldOfErrors errorNotice
  cases findings.isValid with
  | true => rfl
  | false =>
    rw [if_neg Bool.false_ne_true, if_neg Bool.false_ne_true, Notice.written_cons,
      Findings.written_notices hreport htext]
    rfl

theorem written_toldOfWarnings (text : Violation → String) (findings : Findings) :
    Notice.written text (toldOfWarnings findings) =
      warningNotice findings (findings.warnings.map fun v => "  " ++ text v) := by
  unfold toldOfWarnings warningNotice
  cases findings.warnings.isEmpty with
  | true => rfl
  | false =>
    rw [if_neg Bool.false_ne_true, if_neg Bool.false_ne_true, Notice.written_cons]
    simp [Notice.written, Notice.line, Function.comp_def]

/-! ## The runs -/

/-- Nothing is told once the module is being sent. -/
theorem err_emit (m : Manifest) (destination : Option Value) (text : String) (w : World) :
    (runOn (emit m destination text) w).2.err = w.err := by
  unfold emit
  cases destination with
  | none => rfl
  | some v =>
    cases v with
    | string path =>
      simp only [pathOf, runOn_bind, runOn_attempt_ok, runOn_save]
      rcases w.files.save (.ofString path) (Text.Utf8.encode text.toList) with ⟨_, _ | _⟩ <;> rfl
    | _ => rfl

/-- What the command that writes the module has told, however it ends. -/
theorem err_generate {lines : List String} (hchecked : Check.all m.networks = .ok findings)
    (hreport : findings.report = .ok report)
    (hlines : findings.warnings.mapM Findings.reportLine = .ok lines) :
    (outcome (generate settings m) files).err = errorNotice findings report ++
      match refusal? settings.force findings with
      | some reason => reason ++ "\n"
      | none => warningNotice findings lines := by
  unfold outcome generate
  cases hrefusal : refusal? settings.force findings with
  | some reason => simp [hchecked, runOn_reportErrors hreport, hrefusal]
  | none =>
    cases htext : ProviderModule.generate m.networks with
    | error fault =>
      simp [hchecked, runOn_reportErrors hreport, hrefusal, runOn_listWarnings hlines]
    | ok text =>
      have herr := err_emit m (destination? settings m) text
        ⟨files, "", errorNotice findings report ++ warningNotice findings lines⟩
      cases hemit : runOn (emit m (destination? settings m) text)
          ⟨files, "", errorNotice findings report ++ warningNotice findings lines⟩ with
      | mk result w =>
        rw [hemit] at herr
        cases result <;> simpa [hchecked, runOn_reportErrors hreport, hrefusal,
          runOn_listWarnings hlines, htext, hemit] using herr

theorem out_validate (hchecked : Check.all m.networks = .ok findings)
    (hreport : findings.report = .ok report) :
    (outcome (validate m) files).out = countLine m ++ "\n" ++ report ++ "\n" := by
  unfold outcome validate countLine
  simp [hchecked, hreport, String.append_assoc]

/-- Without a report, no finding is printed. -/
theorem out_validate_of_error {fault : Fault} (hchecked : Check.all m.networks = .ok findings)
    (hfault : findings.report = .error fault) :
    (outcome (validate m) files).out = countLine m ++ "\n" := by
  unfold outcome validate countLine
  simp [hchecked, hfault]

theorem written_shown (hreport : findings.report = .ok report)
    (htext : ∀ v ∈ findings, v.text = .ok (text v)) (m : Manifest) :
    Notice.written text (shown m.networks.length findings) =
      countLine m ++ "\n" ++ report ++ "\n" := by
  rw [shown, Notice.written_cons, Notice.written_cons, Findings.written_notices hreport htext]
  simp only [countLine, Notice.line, String.append_assoc, String.empty_append]

theorem written_told (hreport : findings.report = .ok report)
    (htext : ∀ v ∈ findings, v.text = .ok (text v)) (force : Bool) :
    Notice.written text (told force findings) = errorNotice findings report ++
      match refusal? force findings with
      | some reason => reason ++ "\n"
      | none => warningNotice findings (findings.warnings.map fun v => "  " ++ text v) := by
  rw [told, Notice.written_append, written_toldOfErrors hreport htext]
  cases refusal? force findings with
  | some reason => simp [Notice.written, Notice.line]
  | none => rw [written_toldOfWarnings]

/-! ## How often a finding is told -/

theorem count_shown (count : Nat) (findings : Findings) (v : Violation) :
    (shown count findings).count (.finding v) = findings.count v := by
  rw [shown, Notice.count_remark_cons, Notice.count_remark_cons, Findings.count_notices]

theorem count_toldOfErrors (findings : Findings) (v : Violation) :
    (toldOfErrors findings).count (.finding v) =
      if findings.isValid then 0 else findings.count v := by
  unfold toldOfErrors
  cases findings.isValid with
  | true => rfl
  | false => exact (Notice.count_remark_cons v _ _).trans (findings.count_notices v)

theorem count_toldOfWarnings (findings : Findings) (v : Violation) :
    (toldOfWarnings findings).count (.finding v) = findings.warnings.count v := by
  unfold toldOfWarnings
  cases hempty : findings.warnings.isEmpty with
  | true =>
    rw [List.isEmpty_iff.mp hempty]
    rfl
  | false =>
    rw [if_neg Bool.false_ne_true, Notice.count_remark_cons, Notice.count_map_finding]

theorem count_told (force : Bool) (findings : Findings) (v : Violation) :
    (told force findings).count (.finding v) =
      (if findings.isValid then 0 else findings.count v) +
        if refusal? force findings = none then findings.warnings.count v else 0 := by
  rw [told, List.count_append, count_toldOfErrors]
  cases refusal? force findings with
  | some reason => simp
  | none => rw [count_toldOfWarnings, if_pos rfl]

/-- An error is told as often as it was found. -/
theorem count_told_of_error {v : Violation} (h : v.severity = .error) (force : Bool)
    (findings : Findings) : (told force findings).count (.finding v) = findings.count v := by
  have hnone : findings.warnings.count v = 0 := by
    rw [Findings.count_warnings, h]
    rfl
  rw [count_told, hnone, ite_self, Nat.add_zero]
  cases hvalid : findings.isValid with
  | true =>
    have habsent : v ∉ findings := fun hv => (Findings.isValid_iff findings).mp hvalid v hv h
    rw [if_pos rfl, List.count_eq_zero.mpr habsent]
  | false => rw [if_neg Bool.false_ne_true]

instance (force : Bool) (findings : Findings) : Decidable (Permits force findings) :=
  decidable_of_iff _ (refusal?_eq_none_iff force findings)

/-- Whether a run goes on in spite of errors. -/
def Overrides (force : Bool) (findings : Findings) : Prop :=
  findings.errors ≠ [] ∧ Permits force findings

instance (force : Bool) (findings : Findings) : Decidable (Overrides force findings) :=
  inferInstanceAs (Decidable (_ ∧ _))

/-- A warning is told once more by a run that goes on in spite of errors. -/
theorem count_told_of_warning {v : Violation} (h : v.severity = .warning) (force : Bool)
    (findings : Findings) : (told force findings).count (.finding v) =
      if Overrides force findings then 2 * findings.count v else findings.count v := by
  have hoverrides : Overrides force findings ↔
      findings.isValid = false ∧ refusal? force findings = none := by
    rw [Overrides, ne_eq, ← Findings.isValid_iff_errors_eq_nil, Bool.not_eq_true,
      refusal?_eq_none_iff]
  simp only [count_told, Findings.count_warnings, h, if_true, hoverrides]
  cases hvalid : findings.isValid with
  | true =>
    have hnone : refusal? force findings = none := if_pos hvalid
    simp [hnone]
  | false => cases refusal? force findings <;> simp [Nat.two_mul]

/-- What the command that writes the module has told, given the report of what was found and the
texts of violations: if there are errors, the report among other things; if there are only warnings,
their number and then each of them, in the order in which they were found; and otherwise nothing. -/
structure Tells (findings : Findings) (report : String) (text : Violation → String)
    (err : String) : Prop where
  errors : findings.errors ≠ [] → ∃ before after, err = before ++ report ++ after
  warnings : findings.errors = [] → findings ≠ [] →
    err = s!"Validation: {findings.length} warning(s)" ++ "\n" ++
      String.join (findings.map fun v => "  " ++ text v ++ "\n")
  nothing : findings = [] → err = ""

theorem tells_of_told (hreport : findings.report = .ok report)
    (htext : ∀ v ∈ findings, v.text = .ok (text v)) (force : Bool) :
    Tells findings report text (Notice.written text (told force findings)) := by
  constructor
  · intro herrors
    have hvalid : findings.isValid = false :=
      Bool.eq_false_iff.mpr (mt Findings.isValid_iff_errors_eq_nil.mp herrors)
    obtain ⟨rest, hrest⟩ : ∃ rest, Notice.written text (told force findings) =
        errorNotice findings report ++ rest := ⟨_, written_told hreport htext force⟩
    refine ⟨"Validation errors found:\n", "\n" ++ rest, ?_⟩
    rw [hrest, errorNotice, hvalid, if_neg Bool.false_ne_true]
    simp only [String.append_assoc]
  · intro herrors hne
    have hvalid := Findings.isValid_iff_errors_eq_nil.mpr herrors
    have htold : told force findings = toldOfWarnings findings := by
      rw [told, toldOfErrors, refusal?, hvalid]
      rfl
    rw [htold, written_toldOfWarnings, warningNotice, Findings.warnings_of_isValid hvalid,
      List.isEmpty_eq_false_iff.mpr hne, if_neg Bool.false_ne_true, List.map_map]
    rfl
  · rintro rfl
    rfl

/-- **No finding is swallowed.**  Take a manifest that is read and checked to the end, and any
options.  The command that checks the manifest prints the number of its networks and then the report
of what was found, if there is one, as there is whenever the number of networks is within the limit
on decimal digits.

Then the command that writes the module tells what was found: the report, if there are errors,
whether it is forced or not; otherwise a list of the warnings; and nothing if nothing was found.
What the two have printed are notices, and findings stand in the lines of some of these.  The first
tells each finding as often as it was found.  So does the second, but a warning twice as often if it
goes on in spite of errors. -/
theorem generate_tells {config : Option Options.Given} (hload : Loads config files m)
    (hchecked : Check.all m.networks = .ok findings) :
    let checked := outcome (answer (.run config .validate)) files
    let written := outcome (answer (.run config (.generate settings))) files
    (IsShort m.networks.length → ∃ report, findings.report = .ok report) ∧
    (∀ fault, findings.report = .error fault → checked.out = countLine m ++ "\n") ∧
    ∀ report, findings.report = .ok report →
      checked.out = countLine m ++ "\n" ++ report ++ "\n" ∧
      ∃ text : Violation → String, (∀ v ∈ findings, v.text = .ok (text v)) ∧
        Tells findings report text written.err ∧
        checked.out = Notice.written text (shown m.networks.length findings) ∧
        written.err = Notice.written text (told settings.force findings) ∧
        ∀ v, (shown m.networks.length findings).count (.finding v) = findings.count v ∧
          (told settings.force findings).count (.finding v) =
            if v.severity = .warning ∧ Overrides settings.force findings then 2 * findings.count v
            else findings.count v := by
  intro checked written
  have hcheckedRun : checked = outcome (validate m) files := outcome_answer_run hload _
  have hwrittenRun : written = outcome (generate settings m) files := outcome_answer_run hload _
  refine ⟨Check.report_eq_ok hchecked, fun fault hfault => ?_, fun report hreport => ?_⟩
  · rw [hcheckedRun, out_validate_of_error hchecked hfault]
  · obtain ⟨text, htext⟩ := Findings.exists_text (Findings.report_eq_ok_iff.mp ⟨report, hreport⟩)
    have hout : checked.out = countLine m ++ "\n" ++ report ++ "\n" := by
      rw [hcheckedRun, out_validate hchecked hreport]
    have herr : written.err = Notice.written text (told settings.force findings) := by
      have hlines := Findings.mapM_reportLine_of_text fun v hv =>
        htext v (Findings.mem_of_mem_warnings hv)
      rw [hwrittenRun, err_generate hchecked hreport hlines, written_told hreport htext]
    refine ⟨hout, text, htext, ?_, hout.trans (written_shown hreport htext _).symm, herr, ?_⟩
    · rw [herr]
      exact tells_of_told hreport htext settings.force
    · intro v
      refine ⟨count_shown _ findings v, ?_⟩
      cases hseverity : v.severity with
      | error =>
        rw [if_neg (by simp)]
        exact count_told_of_error hseverity _ _
      | warning => simpa using count_told_of_warning hseverity settings.force findings

/-- A manifest with a name that derives no identifier and an address that is repeated, as it is
written. -/
def errorAndWarningText : String := "[[networks]]\nname = \"1st\"\nurl = \"https://e\"\n\n" ++
  "[[networks]]\nname = \"base\"\nurl = \"https://e\"\n"

/-- The manifest that `errorAndWarningText` is. -/
def errorAndWarning : Manifest :=
  ⟨[⟨.string "1st", .string "https://e", .absent⟩, ⟨.string "base", .string "https://e", .absent⟩],
    .string ""⟩

/-- The manifest alone in the working directory. -/
def errorAndWarningFiles : FileTree :=
  ⟨[(["netbindgen.toml"], .file (Text.Utf8.encode errorAndWarningText.toList))]⟩

/-- What is wrong with the first network. -/
def identifierError : Violation :=
  ⟨.error, Code.invalidIdentifier,
    "Name '1st' derives '1ST_PROVIDER', which is not a valid identifier", 0, "1st", "name"⟩

/-- What is suspect about the second one. -/
def urlWarning : Violation :=
  ⟨.warning, Code.duplicateUrl, "Url 'https://e' is also used by networks[0]", 1, "base", "url"⟩

theorem loads_errorAndWarning : Loads none errorAndWarningFiles errorAndWarning :=
  @loads_of_entries none errorAndWarningFiles ""
    [⟨"1st", "https://e", none⟩, ⟨"base", "https://e", none⟩] (by decide +kernel)

/-- Both are told once if the run is refused, and the second one twice if it is forced. -/
theorem errorAndWarning_told : Loads none errorAndWarningFiles errorAndWarning ∧
    Check.all errorAndWarning.networks = .ok [identifierError, urlWarning] ∧
    ∃ report, Findings.report [identifierError, urlWarning] = .ok report ∧
      ∀ force : Bool,
        let o := outcome (answer (.run none (.generate ⟨none, true, force⟩))) errorAndWarningFiles
        (∃ before after, o.err = before ++ report ++ after) ∧
          (told force [identifierError, urlWarning]).count (.finding identifierError) = 1 ∧
          (told force [identifierError, urlWarning]).count (.finding urlWarning) =
            if force then 2 else 1 := by
  have hchecked : Check.all errorAndWarning.networks = .ok [identifierError, urlWarning] :=
    Attempt.eq_ok_of_toOption (by decide +kernel)
  obtain ⟨hexists, -⟩ :=
    @generate_tells _ _ errorAndWarningFiles ⟨none, true, true⟩ none loads_errorAndWarning hchecked
  obtain ⟨report, hreport⟩ := hexists (by decide)
  refine ⟨loads_errorAndWarning, hchecked, report, hreport, fun force => ?_⟩
  obtain ⟨-, -, htells⟩ :=
    @generate_tells _ _ errorAndWarningFiles ⟨none, true, force⟩ none loads_errorAndWarning hchecked
  obtain ⟨-, text, -, htold, -, -, hcount⟩ := htells report hreport
  refine ⟨htold.errors (by decide), (hcount identifierError).2.trans ?_,
    (hcount urlWarning).2.trans ?_⟩
  · rfl
  · cases force <;> decide

end Program

end ProviderBindings
