import ProviderBindings.Proofs.ManifestOrder
import ProviderBindings.Proofs.Prediction
import ProviderBindings.Proofs.Rendering

/-! # Fields that are no strings

A name and an address may be values of any kind.  For each of the two the checks have a code that
is given exactly where the value is no string (`Check.invalidName_mem_codes_iff`,
`Check.invalidUrl_mem_codes_iff`).  Both are codes of errors that forcing the command does not
override, so what it comes to generate from has strings for names and addresses
(`Program.strings_of_permission`).

The generator itself looks at the names alone: where all integers can be shown, it fails exactly
on a name that is no string (`ProviderModule.generate_fails_iff`).
-/
namespace ProviderBindings

open Attempt

theorem Value.exists_eq_string {v : Value} (h : v.string? ≠ none) :
    ∃ text, v = .string text := by
  obtain ⟨text, htext⟩ := Option.ne_none_iff_exists'.mp h
  exact ⟨text, string?_eq_some_iff.mp htext⟩

namespace Network

theorem nameCode?_eq_invalidName_iff {v : Value} :
    nameCode? v = some Code.invalidName ↔ v.string? = none := by
  cases v with
  | string name =>
    refine ⟨fun h => ?_, nofun⟩
    rcases nameCode?_string h with h | h <;> exact absurd h (by decide)
  | _ => simp [nameCode?, Value.string?]

theorem urlCode?_eq_invalidUrl_iff {v : Value} :
    urlCode? v = some Code.invalidUrl ↔ v.string? = none := by
  cases v with
  | string url =>
    refine ⟨fun h => ?_, nofun⟩
    rcases urlCode?_string h with h | h <;> exact absurd h (by decide)
  | _ => simp [urlCode?, Value.string?]

variable {n : Network}

theorem invalidName_mem_fieldCodes_iff :
    Code.invalidName ∈ n.fieldCodes ↔ n.name.string? = none := by
  rw [mem_fieldCodes_iff, nameCode?_eq_invalidName_iff]
  refine ⟨?_, .inl⟩
  rintro (h | h | h)
  · exact h
  · exact absurd (mem_of_urlCode? h) (by decide)
  · exact absurd (mem_of_unitsCode? h) (by decide)

theorem invalidUrl_mem_fieldCodes_iff :
    Code.invalidUrl ∈ n.fieldCodes ↔ n.url.string? = none := by
  rw [mem_fieldCodes_iff, urlCode?_eq_invalidUrl_iff]
  refine ⟨?_, fun h => .inr (.inl h)⟩
  rintro (h | h | h)
  · exact absurd (mem_of_nameCode? h) (by decide)
  · exact h
  · exact absurd (mem_of_unitsCode? h) (by decide)

end Network

namespace Check

variable {networks : List Network} {findings : Findings} {code : String}

theorem eq_of_mem_codes_repetitions (h : code ∈ (repetitions networks).codes) :
    code = Code.duplicateName ∨ code = Code.duplicateUrl := by
  obtain ⟨v, hv, rfl⟩ := List.mem_map.mp h
  obtain ⟨i, n, message, -, rfl | rfl⟩ := of_mem_repetitionsFrom hv
  · exact .inl rfl
  · exact .inr rfl

/-- A code that is not of a repetition is found exactly where it is one of a field. -/
theorem mem_codes_iff (h : Check.all networks = .ok findings) (hname : code ≠ Code.duplicateName)
    (hurl : code ≠ Code.duplicateUrl) :
    code ∈ findings.codes ↔ ∃ n ∈ networks, code ∈ n.fieldCodes := by
  rw [codes_all h, List.mem_append, List.mem_flatMap]
  refine ⟨?_, .inl⟩
  rintro (hfields | hrepeated)
  · exact hfields
  · rcases eq_of_mem_codes_repetitions hrepeated with rfl | rfl
    · exact absurd rfl hname
    · exact absurd rfl hurl

theorem invalidName_mem_codes_iff (h : Check.all networks = .ok findings) :
    Code.invalidName ∈ findings.codes ↔ ∃ n ∈ networks, n.name.string? = none := by
  rw [mem_codes_iff h (by decide) (by decide)]
  simp only [Network.invalidName_mem_fieldCodes_iff]

theorem invalidUrl_mem_codes_iff (h : Check.all networks = .ok findings) :
    Code.invalidUrl ∈ findings.codes ↔ ∃ n ∈ networks, n.url.string? = none := by
  rw [mem_codes_iff h (by decide) (by decide)]
  simp only [Network.invalidUrl_mem_fieldCodes_iff]

/-- What has a code other than that of a repeated address is an error. -/
theorem exists_mem_errors (h : Check.all networks = .ok findings) (hcode : code ∈ findings.codes)
    (hurl : code ≠ Code.duplicateUrl) : ∃ v ∈ findings.errors, v.code = code := by
  obtain ⟨v, hv, rfl⟩ := List.mem_map.mp hcode
  refine ⟨v, List.mem_filter.mpr ⟨hv, ?_⟩, rfl⟩
  rw [isError_eq_code_bne h hv, bne_iff_ne]
  exact hurl

end Check

namespace Program

variable {networks : List Network} {findings : Findings} {force : Bool}

theorem not_mem_codes_of_permission {code : String} (h : Check.all networks = .ok findings)
    (hpermission : refusal? force findings = none) (hcode : code ∈ Code.unrenderable) :
    code ∉ findings.codes := by
  intro hmem
  have hne : code ≠ Code.duplicateUrl := by
    rintro rfl
    exact absurd hcode (by decide)
  obtain ⟨v, hv, rfl⟩ := Check.exists_mem_errors h hmem hne
  rcases (refusal?_eq_none_iff force findings).mp hpermission with hnone | ⟨-, hrenderable⟩
  · rw [hnone] at hv
    cases hv
  · obtain ⟨hname, hurl⟩ := hrenderable v hv
    rcases List.mem_cons.mp hcode with hcode | hcode
    · exact hname hcode
    · exact hurl (List.mem_singleton.mp hcode)

/-- **What the module may be generated from** has strings for names and addresses, whether or not
the command is forced. -/
theorem strings_of_permission (h : Check.all networks = .ok findings)
    (hpermission : refusal? force findings = none) :
    ∀ n ∈ networks, (∃ name, n.name = .string name) ∧ ∃ url, n.url = .string url := by
  have hname : Code.invalidName ∉ findings.codes :=
    not_mem_codes_of_permission h hpermission (by decide)
  have hurl : Code.invalidUrl ∉ findings.codes :=
    not_mem_codes_of_permission h hpermission (by decide)
  rw [Check.invalidName_mem_codes_iff h] at hname
  rw [Check.invalidUrl_mem_codes_iff h] at hurl
  intro n hn
  exact ⟨Value.exists_eq_string fun hnone => hname ⟨n, hn, hnone⟩,
    Value.exists_eq_string fun hnone => hurl ⟨n, hn, hnone⟩⟩

end Program

namespace ProviderModule

variable {networks : List Network}

theorem boundLiteral_eq_ok {units : Value} (h : units.HasShortIntegers) :
    ∃ text, boundLiteral units = .ok text := by
  obtain ⟨text, htext⟩ := Value.text_eq_ok h
  unfold boundLiteral
  split
  · exact ⟨_, by rw [htext]; rfl⟩
  · exact ⟨_, rfl⟩

/-- What is generated from has strings for names, and all integers in it can be shown. -/
theorem exists_rendered (hnames : ∀ n ∈ networks, ∃ name, n.name = .string name)
    (hshort : ∀ n ∈ networks, n.HasShortIntegers) :
    ∃ declarations accessors, Rendered networks declarations accessors := by
  have hdeclared : ∀ n ∈ networks, ∃ d, declaration n = .ok d := by
    intro n hn
    obtain ⟨name, hname⟩ := hnames n hn
    obtain ⟨url, hurl⟩ := Value.text_eq_ok (hshort n hn n.url (by simp [Network.values]))
    obtain ⟨units, hunits⟩ :=
      boundLiteral_eq_ok (hshort n hn n.computeUnits (by simp [Network.values]))
    exact ⟨_, declaration_eq_ok hname hurl hunits⟩
  have hhandedOut : ∀ n ∈ networks, ∃ a, accessorFunction n = .ok a := by
    intro n hn
    obtain ⟨name, hname⟩ := hnames n hn
    exact ⟨_, accessorFunction_eq_ok_iff.mpr ⟨name, hname, rfl⟩⟩
  obtain ⟨declarations, hdeclarations⟩ := exists_mapM_eq_ok_iff.mpr hdeclared
  obtain ⟨accessors, haccessors⟩ := exists_mapM_eq_ok_iff.mpr hhandedOut
  exact ⟨declarations, accessors, hdeclarations, haccessors⟩

/-- A module has strings for the names in it. -/
theorem exists_name_of_generate {text : String} (h : generate networks = .ok text) :
    ∀ n ∈ networks, ∃ name, n.name = .string name := by
  obtain ⟨declarations, accessors, hrendered, -⟩ := generate_eq_ok_iff.mp h
  intro n hn
  obtain ⟨d, hd⟩ := exists_of_mapM_eq_ok hrendered.declared n hn
  obtain ⟨name, url, units, hname, -⟩ := declaration_eq_ok_iff.mp hd
  exact ⟨name, hname⟩

/-- **The generator fails** exactly on a name that is no string, where all integers can be
shown. -/
theorem generate_fails_iff (h : ∀ n ∈ networks, n.HasShortIntegers) :
    (∃ fault, generate networks = .error fault) ↔ ∃ n ∈ networks, n.name.string? = none := by
  constructor
  · rintro ⟨fault, hfault⟩
    by_contra hnone
    have hnames : ∀ n ∈ networks, ∃ name, n.name = .string name := fun n hn =>
      Value.exists_eq_string fun hname => hnone ⟨n, hn, hname⟩
    obtain ⟨text, htext⟩ := exists_generate_iff.mpr (exists_rendered hnames h)
    rw [htext] at hfault
    cases hfault
  · rintro ⟨n, hn, hnone⟩
    cases hgenerate : generate networks with
    | error fault => exact ⟨fault, rfl⟩
    | ok text =>
      obtain ⟨name, hname⟩ := exists_name_of_generate hgenerate n hn
      rw [hname] at hnone
      cases hnone

end ProviderModule

end ProviderBindings
