import ProviderBindings.Proofs.Arguments
import ProviderBindings.Proofs.CheckFaults
import ProviderBindings.Proofs.Emission

/-! # Whether the checks and the generator agree

A module can be generated from every valid manifest, but for one thing: a bound on the work
per second is written with its digits, of which it may have too many, and the checks ask
of a bound only that it is a positive integer.  So the command that writes the module to the
standard output ends with status 0 exactly when the command that checks the manifest does and
every bound is within the limit on digits; where a bound alone is in the way, it ends with the
fault of an integer that cannot be shown (`Program.generate_iff_validate`).

Status 0 of the command that writes the module says that it has written it
(`Program.delivers_of_exit`), so that what was found has been no hindrance.

Both commands show the position of what was found, the one in its report and the other in the
list of warnings.  In a valid manifest all findings are warnings, so these come to an end
together, whatever the length of the manifest.
-/
namespace ProviderBindings

open Session Attempt

/-- Whether every bound that is an integer is within the limit on decimal digits. -/
def HasShortBounds (networks : List Network) : Prop :=
  ∀ n ∈ networks, ∀ k : Int, n.computeUnits = .integer k → IsShort k

namespace Findings

variable {f : Findings}

/-- Without an error, all findings are warnings. -/
theorem warnings_of_isValid (h : f.isValid = true) : f.warnings = f := by
  rw [warnings, List.filter_eq_self]
  intro v hv
  have hseverity := (isValid_iff f).mp h v hv
  cases hv' : v.severity with
  | error => exact absurd hv' hseverity
  | warning => rw [Violation.isWarning, hv']; rfl

end Findings

namespace ProviderModule

theorem boundLiteral_failsOnlyWith (units : Value) :
    FailsOnlyWith .integerTooLong (boundLiteral units) := by
  unfold boundLiteral
  split
  · exact units.text_failsOnlyWith.bind fun _ => .ok _
  · exact .ok _

theorem declaration_failsOnlyWith {n : Network} {name : String} (h : n.name = .string name) :
    FailsOnlyWith .integerTooLong (declaration n) := by
  rw [declaration, h, Identifier.nameText_string]
  exact (FailsOnlyWith.ok name).bind fun _ => (boundLiteral_failsOnlyWith _).bind fun _ =>
    n.url.text_failsOnlyWith.bind fun _ => .ok _

theorem accessorFunction_failsOnlyWith {n : Network} {name : String} (h : n.name = .string name) :
    FailsOnlyWith .integerTooLong (accessorFunction n) := by
  rw [accessorFunction, h, Identifier.nameText_string]
  exact (FailsOnlyWith.ok name).bind fun _ => .ok _

/-- Nothing but an integer with too many digits keeps a module from being generated from
networks whose names are strings. -/
theorem generate_failsOnlyWith {networks : List Network}
    (h : ∀ n ∈ networks, ∃ name, n.name = .string name) :
    FailsOnlyWith .integerTooLong (generate networks) := by
  have hdeclarations : FailsOnlyWith .integerTooLong (networks.mapM declaration) := by
    refine .mapM fun n hn => ?_
    obtain ⟨name, hname⟩ := h n hn
    exact declaration_failsOnlyWith hname
  have haccessors : FailsOnlyWith .integerTooLong (networks.mapM accessorFunction) := by
    refine .mapM fun n hn => ?_
    obtain ⟨name, hname⟩ := h n hn
    exact accessorFunction_failsOnlyWith hname
  exact hdeclarations.bind fun _ => haccessors.bind fun _ => .ok _

variable {networks : List Network} {findings : Findings}

/-- **The generator on a valid manifest** depends on the size of its bounds alone. -/
theorem generate_completes (hchecked : Check.all networks = .ok findings)
    (hvalid : findings.isValid = true) :
    (HasShortBounds networks → ∃ text, generate networks = .ok text) ∧
      (¬ HasShortBounds networks → generate networks = .error .integerTooLong) := by
  constructor
  · intro hshort
    obtain ⟨c, hc, -⟩ := exists_contents hchecked hvalid hshort
    exact ⟨c.text, hc⟩
  · intro hlong
    cases hgenerate : generate networks with
    | ok text => exact absurd (isShort_of_generate hgenerate) hlong
    | error fault =>
      have hnames : ∀ n ∈ networks, ∃ name, n.name = .string name := by
        intro n hn
        obtain ⟨name, hname, -⟩ :=
          (((Check.isValid_iff_acceptable hchecked).mp hvalid).fields n hn).name
        exact ⟨name, hname⟩
      rw [generate_failsOnlyWith hnames fault hgenerate]

end ProviderModule

namespace Program

variable {m : Manifest} {findings : Findings} {files : FileTree}

/-! ## The checking command -/

/-- The command that checks a manifest ends with status 0 exactly when the manifest has been
checked, is valid, and all that was found can be shown. -/
theorem exit_validate_iff : (outcome (validate m) files).ending = .exit 0 ↔
    ∃ findings, Check.all m.networks = .ok findings ∧ findings.isValid = true ∧
      ∀ v ∈ findings, IsShort v.index := by
  unfold outcome validate
  cases hchecked : Check.all m.networks with
  | error fault => simp
  | ok findings =>
    simp only [Except.ok.injEq, exists_eq_left', ← Findings.report_eq_ok_iff]
    cases hreport : findings.report with
    | error fault => simp [hreport]
    | ok report => cases hvalid : findings.isValid <;> simp [hreport, hvalid]

/-! ## The writing command -/

/-- The settings with which the module is printed. -/
def printing : GenerateSettings := ⟨none, true, false⟩

/-- The list of warnings ends at the first that cannot be shown. -/
theorem runOn_forM_reportLine_error {vs : List Violation} {fault : Fault}
    (h : vs.mapM Findings.reportLine = .error fault) (w : World) :
    ∃ w', runOn (forM vs fun v => do complain (← attempt (Findings.reportLine v))) w =
      (.error (.fault fault), w') := by
  induction vs generalizing w with
  | nil => cases h
  | cons v rest ih =>
    rw [List.mapM_cons] at h
    cases hline : Findings.reportLine v with
    | error cause =>
      rw [hline] at h
      cases h
      exact ⟨w, by simp [hline]⟩
    | ok line =>
      cases hrest : rest.mapM Findings.reportLine with
      | ok lines =>
        rw [hline, hrest] at h
        cases h
      | error cause =>
        rw [hline, hrest] at h
        cases h
        obtain ⟨w', hw'⟩ := ih hrest { w with err := w.err ++ (line ++ "\n") }
        exact ⟨w', by simp [hline, hw']⟩

theorem runOn_listWarnings_error {fault : Fault}
    (h : findings.warnings.mapM Findings.reportLine = .error fault) (w : World) :
    ∃ w', runOn (listWarnings findings) w = (.error (.fault fault), w') := by
  have hne : findings.warnings.isEmpty = false := by
    rw [List.isEmpty_eq_false_iff]
    intro hempty
    rw [hempty] at h
    cases h
  unfold listWarnings
  rw [hne]
  simp only [Bool.not_false, if_true, runOn_bind, runOn_complain]
  exact runOn_forM_reportLine_error h _

/-- The printing command on a valid manifest prints what the generator gives, whatever else its
options are, if all that was found can be shown. -/
theorem outcome_print {settings : GenerateSettings} (hstdout : settings.stdout = true)
    (hchecked : Check.all m.networks = .ok findings) (hvalid : findings.isValid = true)
    (hshown : ∀ v ∈ findings, IsShort v.index) :
    ∃ err, outcome (generate settings m) files =
      match ProviderModule.generate m.networks with
      | .ok text => ⟨.exit 0, text, err, files⟩
      | .error fault => ⟨.fault fault, "", err, files⟩ := by
  obtain ⟨lines, hlines⟩ := Findings.mapM_reportLine_eq_ok fun v hv =>
    hshown v (Findings.mem_of_mem_warnings hv)
  obtain ⟨report, hreport⟩ := Findings.report_eq_ok hshown
  have hrefusal : refusal? settings.force findings = none := if_pos hvalid
  have hplace : destination? settings m = none := by simp [destination?, hstdout]
  refine ⟨errorNotice findings report ++ warningNotice findings lines, ?_⟩
  unfold outcome generate
  cases ProviderModule.generate m.networks <;>
    simp [hchecked, runOn_reportErrors hreport, hrefusal, runOn_listWarnings hlines, hplace, emit]

theorem ending_generate (hchecked : Check.all m.networks = .ok findings)
    (hvalid : findings.isValid = true) (hshown : ∀ v ∈ findings, IsShort v.index) :
    (outcome (generate printing m) files).ending =
      match ProviderModule.generate m.networks with
      | .ok _ => .exit 0
      | .error fault => .fault fault := by
  obtain ⟨err, hrun⟩ : ∃ err, outcome (generate printing m) files = _ :=
    outcome_print rfl hchecked hvalid hshown
  rw [hrun]
  cases ProviderModule.generate m.networks <;> rfl

/-- A text is sent to its place, or else the run ends with a fault. -/
theorem emit_fails_or_canSave (m : Manifest) (destination : Option Value) (text err : String)
    (files : FileTree) :
    (∃ fault w, runOn (emit m destination text) ⟨files, "", err⟩ = (.error (.fault fault), w)) ∨
      ∃ place : Option String, destination = place.map Value.string ∧
        ∀ path, place = some path → CanSave files path text := by
  cases destination with
  | none => exact .inr ⟨none, rfl, by simp⟩
  | some v =>
    cases v with
    | string path =>
      cases hsaved : files.save (.ofString path) (Text.Utf8.encode text.toList) with
      | mk saved result =>
        cases result with
        | error fault =>
          refine .inl ⟨fault, ⟨saved, "", err⟩, ?_⟩
          simp only [emit, pathOf, runOn_bind, runOn_attempt_ok, runOn_save, hsaved]
        | ok _ =>
          refine .inr ⟨some path, rfl, ?_⟩
          rintro _ ⟨⟩
          exact congrArg Prod.snd hsaved
    | _ => exact .inl ⟨_, _, rfl⟩

/-- **Status 0** of the command that writes the module says that it has written it: the manifest
has been checked, what was found permits the module, its warnings have been shown, and the text of
the module has been sent to its place. -/
theorem delivers_of_exit {settings : GenerateSettings}
    (h : (outcome (generate settings m) files).ending = .exit 0) :
    ∃ findings text place, Check.all m.networks = .ok findings ∧
      refusal? settings.force findings = none ∧ (∀ v ∈ findings.warnings, IsShort v.index) ∧
      ProviderModule.generate m.networks = .ok text ∧
      destination? settings m = place.map Value.string ∧
      Delivers files m.networks.length text (outcome (generate settings m) files) place := by
  unfold outcome generate at h
  cases hchecked : Check.all m.networks with
  | error fault => simp [hchecked] at h
  | ok findings =>
    -- there is nothing to report, or the report can be shown
    obtain ⟨err, hreported⟩ : ∃ err,
        runOn (reportErrors findings) ⟨files, "", ""⟩ = (.ok (), ⟨files, "", err⟩) := by
      cases hreport : findings.report with
      | ok report => exact ⟨_, runOn_reportErrors hreport ⟨files, "", ""⟩⟩
      | error fault =>
        cases hvalid : findings.isValid with
        | true => exact ⟨"", by simp [reportErrors, hvalid]⟩
        | false => simp [hchecked, reportErrors, hvalid, hreport] at h
    cases hrefusal : refusal? settings.force findings with
    | some reason => simp [hchecked, hreported, hrefusal] at h
    | none =>
      cases hlines : findings.warnings.mapM Findings.reportLine with
      | error fault =>
        obtain ⟨w, hw⟩ := runOn_listWarnings_error hlines ⟨files, "", err⟩
        simp [hchecked, hreported, hrefusal, hw] at h
      | ok lines =>
        have hlisted := runOn_listWarnings hlines ⟨files, "", err⟩
        cases htext : ProviderModule.generate m.networks with
        | error fault => simp [hchecked, hreported, hrefusal, hlisted, htext] at h
        | ok text =>
          rcases emit_fails_or_canSave m (destination? settings m) text
            (err ++ warningNotice findings lines) files with
            ⟨fault, w, hemit⟩ | ⟨place, hplace, hsave⟩
          · simp [hchecked, hreported, hrefusal, hlisted, htext, hemit] at h
          · exact ⟨findings, text, place, rfl, hrefusal,
              Findings.isShort_of_mapM_reportLine hlines, rfl, hplace,
              (delivers_of_reports hchecked hreported hlines hrefusal htext hplace hsave).2⟩

/-- Status 0 of the printing command says that the manifest is valid, and that what was found
has been shown. -/
theorem of_exit_generate (h : (outcome (generate printing m) files).ending = .exit 0) :
    ∃ findings, Check.all m.networks = .ok findings ∧ findings.isValid = true ∧
      ∀ v ∈ findings, IsShort v.index := by
  obtain ⟨findings, -, -, hchecked, hrefusal, hshown, -⟩ := delivers_of_exit h
  have hvalid : findings.isValid = true := by
    rcases (refusal?_eq_none_iff _ _).mp hrefusal with herrors | ⟨hforce, -⟩
    · exact Findings.isValid_iff_errors_eq_nil.mpr herrors
    · cases hforce
  rw [Findings.warnings_of_isValid hvalid] at hshown
  exact ⟨findings, hchecked, hvalid, hshown⟩

/-- Of a valid manifest that has a bound which cannot be shown, no module is printed. -/
theorem ending_generate_of_long (h : (outcome (validate m) files).ending = .exit 0)
    (hlong : ¬ HasShortBounds m.networks) :
    (outcome (generate printing m) files).ending = .fault .integerTooLong := by
  obtain ⟨findings, hchecked, hvalid, hshown⟩ := exit_validate_iff.mp h
  rw [ending_generate hchecked hvalid hshown,
    (ProviderModule.generate_completes hchecked hvalid).2 hlong]

/-- The two commands on one manifest agree, but for such a bound. -/
theorem exit_generate_iff : (outcome (generate printing m) files).ending = .exit 0 ↔
    (outcome (validate m) files).ending = .exit 0 ∧ HasShortBounds m.networks := by
  constructor
  · intro h
    have hvalidated : (outcome (validate m) files).ending = .exit 0 :=
      exit_validate_iff.mpr (of_exit_generate h)
    refine ⟨hvalidated, ?_⟩
    by_contra hlong
    rw [ending_generate_of_long hvalidated hlong] at h
    cases h
  · rintro ⟨h, hshort⟩
    obtain ⟨findings, hchecked, hvalid, hshown⟩ := exit_validate_iff.mp h
    obtain ⟨text, htext⟩ := (ProviderModule.generate_completes hchecked hvalid).1 hshort
    rw [ending_generate hchecked hvalid hshown, htext]

/-! ## The command lines -/

open Options Request in
/-- The two command lines with one path for the manifest: either each asks for its command on
that manifest, or both are misused. -/
theorem ofArgs_commands (path : String) :
    (ofArgs ["-c", path, "validate"] = .run (some (.text path)) .validate ∧
      ofArgs ["-c", path, "generate", "--stdout"] =
        .run (some (.text path)) (.generate printing)) ∨
    ((∃ usage problem, ofArgs ["-c", path, "validate"] = .misuse usage problem) ∧
      ∃ usage problem, ofArgs ["-c", path, "generate", "--stdout"] = .misuse usage problem) := by
  by_cases hpath : classify Usage.ofProgram.options path = .ok .word
  · left
    exact ⟨ofArgs_config_of_word hpath rfl rfl, ofArgs_config_of_word hpath rfl rfl⟩
  · right
    exact ⟨ofArgs_config_of_not_word hpath _, ofArgs_config_of_not_word hpath _⟩

theorem ending_misuse {args : List String} {usage : Usage} {problem : Options.Misuse}
    (h : Request.ofArgs args = .misuse usage problem) : (run args files).ending = .exit 2 := by
  simp [run, h, answer, outcome]

/-- **When the checks and the generator agree.**  For every manifest that is read: the module is
printed, with status 0, exactly when the manifest is found valid, with status 0, and every bound
is within the limit on digits; and if the manifest is found valid but a bound is not, the
printing ends with the fault of an integer that cannot be shown.  In the same way, a module is
generated from those lists of networks found valid whose bounds are within the limit, and the
generator stops with that fault on the others. -/
theorem generate_iff_validate {path : String} (hload : Loads (some (.text path)) files m) :
    let validated := (run ["-c", path, "validate"] files).ending
    let generated := (run ["-c", path, "generate", "--stdout"] files).ending
    (generated = .exit 0 ↔ validated = .exit 0 ∧ HasShortBounds m.networks) ∧
      (validated = .exit 0 → ¬ HasShortBounds m.networks →
        generated = .fault .integerTooLong) ∧
      ∀ (networks : List Network) (findings : Findings), Check.all networks = .ok findings →
        findings.isValid = true →
          (HasShortBounds networks → ∃ text, ProviderModule.generate networks = .ok text) ∧
            (¬ HasShortBounds networks →
              ProviderModule.generate networks = .error .integerTooLong) := by
  intro validated generated
  suffices hcommands : (generated = .exit 0 ↔ validated = .exit 0 ∧ HasShortBounds m.networks) ∧
      (validated = .exit 0 → ¬ HasShortBounds m.networks → generated = .fault .integerTooLong) from
    ⟨hcommands.1, hcommands.2, fun _ _ => ProviderModule.generate_completes⟩
  rcases ofArgs_commands path with ⟨hvalidate, hgenerate⟩ | ⟨⟨_, _, hvalidate⟩, ⟨_, _, hgenerate⟩⟩
  · have hvalidated : validated = (outcome (validate m) files).ending :=
      congrArg Outcome.ending (run_eq hvalidate hload)
    have hgenerated : generated = (outcome (generate printing m) files).ending :=
      congrArg Outcome.ending (run_eq hgenerate hload)
    rw [hvalidated, hgenerated]
    exact ⟨exit_generate_iff, ending_generate_of_long⟩
  · -- a path that is no word: neither command is carried out
    have hvalidated : validated = .exit 2 := ending_misuse hvalidate
    have hgenerated : generated = .exit 2 := ending_misuse hgenerate
    rw [hvalidated, hgenerated]
    constructor <;> simp

/-- A manifest with a bound, and an address that is not ASCII, as it is written. -/
def nonAsciiUrlText : String :=
  "[[networks]]\nname = \"meter\"\nurl = \"£\"\ncompute_units_per_second = 0x294\n"

/-- The manifest that `nonAsciiUrlText` is. -/
def nonAsciiUrl : Manifest := ⟨[⟨.string "meter", .string "£", .integer 660⟩], .string ""⟩

/-- The manifest alone in the working directory. -/
def nonAsciiUrlFiles : FileTree := ⟨[(["-1"], .file (Text.Utf8.encode nonAsciiUrlText.toList))]⟩

/-- The network of the manifest with a bound that is allowed but has no text. -/
def longBound : List Network := [⟨.string "meter", .string "£", .integer Check.leastLongInteger⟩]

theorem loads_nonAsciiUrl : Loads (some (.text "-1")) nonAsciiUrlFiles nonAsciiUrl :=
  @loads_of_entries (some (.text "-1")) nonAsciiUrlFiles "" [⟨"meter", "£", some 660⟩]
    (by decide +kernel)

/-- The commands agree where the bound is short, and not where it is too long.  The path is a word,
though it begins as an option does. -/
theorem longBound_agreement : Loads (some (.text "-1")) nonAsciiUrlFiles nonAsciiUrl ∧
    (run ["-c", "-1", "validate"] nonAsciiUrlFiles).ending = .exit 0 ∧
    (run ["-c", "-1", "generate", "--stdout"] nonAsciiUrlFiles).ending = .exit 0 ∧
    Check.all longBound = .ok [] ∧
    ProviderModule.generate longBound = .error .integerTooLong := by
  have hvalidated : (run ["-c", "-1", "validate"] nonAsciiUrlFiles).ending = .exit 0 := by
    decide +kernel
  have hshort : HasShortBounds nonAsciiUrl.networks := by
    have h : IsShort 660 := by decide
    simp [HasShortBounds, nonAsciiUrl, h]
  have hchecked : Check.all longBound = .ok [] := Attempt.eq_ok_of_toOption (by decide +kernel)
  have hlong : ¬ HasShortBounds longBound := fun h =>
    Check.not_isShort_leastLongInteger (h _ (List.mem_singleton_self _) _ rfl)
  obtain ⟨hiff, -, hnetworks⟩ := generate_iff_validate loads_nonAsciiUrl
  exact ⟨loads_nonAsciiUrl, hvalidated, hiff.mpr ⟨hvalidated, hshort⟩, hchecked,
    (hnetworks longBound [] hchecked rfl).2 hlong⟩

end Program

end ProviderBindings
