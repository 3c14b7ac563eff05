import ProviderBindings.Check.Repetition
import ProviderBindings.Proofs.FieldFindings
import ProviderBindings.Proofs.Naming

/-! # The manifests that the checks accept

The checks walk through a manifest twice and collect what they find.  Whether they find
an error can be said without a walk: `Check.Acceptable` asks of every network by itself
that its name derives identifiers, that its address can stand in a string literal and
that a bound on the work per second is a positive integer, and of all networks together
that no two derive the same provider.  A manifest whose values can be shown is always
checked to the end, and it is valid if and only if it is acceptable
(`all_isValid_iff`).

The walk across networks keeps what it has met.  Its invariant is in
`repetitionsFrom_isValid_iff`: no error is found from here on exactly when the providers
still to come differ from each other and from all those met.
-/
namespace ProviderBindings

/-- Whether an address can stand in a string literal as it is. -/
structure IsUrl (url : String) : Prop where
  nonempty : url ≠ ""
  chars : ∀ c ∈ url.toList, c ≠ '"' ∧ c ≠ '\\' ∧ c ≠ '\n' ∧ c ≠ '\r'

namespace Network

/-- What a single network must be for a module to be generated from it. -/
structure Acceptable (n : Network) : Prop where
  name : ∃ name, n.name = .string name ∧ Identifier.IsName name
  url : ∃ url, n.url = .string url ∧ IsUrl url
  units : n.computeUnits = .absent ∨ ∃ k : Int, n.computeUnits = .integer k ∧ 0 < k

variable {n : Network}

theorem nameCode?_eq_none_iff {v : Value} :
    nameCode? v = none ↔ ∃ name, v = .string name ∧ Identifier.IsName name := by
  constructor
  · intro h
    cases v with
    | string name =>
      refine ⟨name, rfl, ?_⟩
      by_cases hempty : name = ""
      · simp [nameCode?, hempty] at h
      · rw [nameCode?, if_neg hempty] at h
        by_cases hline : Identifier.isLine (Identifier.storage name) = true
        · exact (Identifier.isLine_storage_iff hempty).mp hline
        · simp [hline] at h
    | _ => simp [nameCode?] at h
  · rintro ⟨name, rfl, hname⟩
    rw [nameCode?, if_neg hname.nonempty,
      if_pos ((Identifier.isLine_storage_iff hname.nonempty).mpr hname)]

theorem any_breaksLiteral_eq_false_iff {text : List Char} : text.any breaksLiteral = false ↔
    ∀ c ∈ text, c ≠ '"' ∧ c ≠ '\\' ∧ c ≠ '\n' ∧ c ≠ '\r' := by
  simp [breaksLiteral]

theorem urlCode?_eq_none_iff {v : Value} :
    urlCode? v = none ↔ ∃ url, v = .string url ∧ IsUrl url := by
  constructor
  · intro h
    cases v with
    | string url =>
      by_cases hempty : url = ""
      · simp [urlCode?, hempty] at h
      · rw [urlCode?, if_neg hempty] at h
        by_cases hbreaks : url.toList.any breaksLiteral = true
        · simp [hbreaks] at h
        · exact ⟨url, rfl, hempty,
            any_breaksLiteral_eq_false_iff.mp (Bool.eq_false_iff.mpr hbreaks)⟩
    | _ => simp [urlCode?] at h
  · rintro ⟨url, rfl, hurl⟩
    rw [urlCode?, if_neg hurl.nonempty, any_breaksLiteral_eq_false_iff.mpr hurl.chars]
    rfl

theorem unitsCode?_eq_none_iff {v : Value} :
    unitsCode? v = none ↔ v = .absent ∨ ∃ k : Int, v = .integer k ∧ 0 < k := by
  cases v <;> simp [unitsCode?, unitsAllowed]

theorem fieldCodes_eq_nil_iff : n.fieldCodes = [] ↔ n.Acceptable := by
  have hoption : ∀ o : Option String, o.toList = [] ↔ o = none := by
    intro o
    cases o <;> simp
  rw [fieldCodes, List.append_eq_nil_iff, List.append_eq_nil_iff, hoption, hoption, hoption,
    nameCode?_eq_none_iff, urlCode?_eq_none_iff, unitsCode?_eq_none_iff]
  constructor
  · rintro ⟨⟨hname, hurl⟩, hunits⟩
    exact ⟨hname, hurl, hunits⟩
  · rintro ⟨hname, hurl, hunits⟩
    exact ⟨⟨hname, hurl⟩, hunits⟩

/-- The codes of repetitions are not among those of fields. -/
theorem not_mem_fieldCodes {code : String}
    (hcode : code = Code.duplicateName ∨ code = Code.duplicateUrl) (n : Network) :
    code ∉ n.fieldCodes := by
  rw [mem_fieldCodes_iff]
  rintro (h | h | h)
  · have hname := mem_of_nameCode? h
    rcases hcode with rfl | rfl <;> exact absurd hname (by decide)
  · have hurl := mem_of_urlCode? h
    rcases hcode with rfl | rfl <;> exact absurd hurl (by decide)
  · have hunits := mem_of_unitsCode? h
    rcases hcode with rfl | rfl <;> exact absurd hunits (by decide)

/-- The identifier of the provider of a network whose name is a string and not empty. -/
def provider? (n : Network) : Option String :=
  if n.nameOrEmpty = "" then none else some (Identifier.storage n.nameOrEmpty)

theorem Acceptable.name_eq (h : n.Acceptable) :
    n.name = .string n.nameOrEmpty ∧ Identifier.IsName n.nameOrEmpty := by
  obtain ⟨name, hname, hisName⟩ := h.name
  simpa [nameOrEmpty, hname] using hisName

theorem Acceptable.provider?_eq (h : n.Acceptable) :
    n.provider? = some (Identifier.storage n.nameOrEmpty) :=
  if_neg h.name_eq.2.nonempty

end Network

namespace Check

/-- What a manifest must be for a module to be generated from it: every network must be
acceptable by itself, and no two may derive the same provider. -/
structure Acceptable (networks : List Network) : Prop where
  fields : ∀ n ∈ networks, n.Acceptable
  distinct : (networks.map fun n => Identifier.storage n.nameOrEmpty).Nodup

/-! ## Repetitions -/

section

variable (n : Network) (index : Nat)

theorem repeatedName_of_none (seen : List (String × Nat × String)) (h : n.provider? = none) :
    repeatedName seen n index = ([], seen) := by
  have hempty : n.nameOrEmpty = "" := by
    by_contra hne
    rw [Network.provider?, if_neg hne] at h
    cases h
  exact if_pos hempty

theorem repeatedName_of_some (seen : List (String × Nat × String)) {key : String}
    (h : n.provider? = some key) :
    (∃ first message, seen.lookup key = some first ∧ repeatedName seen n index =
      ([n.violation index .error Code.duplicateName .name message], seen)) ∨
    (seen.lookup key = none ∧
      repeatedName seen n index = ([], (key, index, n.nameOrEmpty) :: seen)) := by
  have hne : n.nameOrEmpty ≠ "" := by
    intro hempty
    rw [Network.provider?, if_pos hempty] at h
    cases h
  rw [Network.provider?, if_neg hne, Option.some.injEq] at h
  subst h
  unfold repeatedName
  rw [if_neg hne]
  cases seen.lookup (Identifier.storage n.nameOrEmpty) with
  | none => exact .inr ⟨rfl, rfl⟩
  | some first => exact .inl ⟨first, _, rfl, rfl⟩

/-- A repeated address is no error. -/
theorem isValid_repeatedUrl (seen : List (String × Nat)) :
    Findings.isValid (repeatedUrl seen n index).1 = true := by
  unfold repeatedUrl
  dsimp only
  split
  · rfl
  · split <;> rfl

end

/-- A new key and keys that are fresh after it are fresh together. -/
theorem fresh_cons_iff {α : Type} {seen : List (String × α)} {key : String} (value : α)
    {keys : List String} (hkey : seen.lookup key = none) :
    (keys.Nodup ∧ ∀ other ∈ keys, ((key, value) :: seen).lookup other = none) ↔
      (key :: keys).Nodup ∧ ∀ other ∈ key :: keys, seen.lookup other = none := by
  rw [List.nodup_cons]
  constructor
  · rintro ⟨hnodup, hfresh⟩
    have hne : ∀ other ∈ keys, other ≠ key := by
      rintro other hother rfl
      simpa using hfresh other hother
    refine ⟨⟨fun hmem => hne key hmem rfl, hnodup⟩, ?_⟩
    intro other hother
    rcases List.mem_cons.mp hother with rfl | hother
    · exact hkey
    · rw [← Entries.lookup_cons_of_ne (hne other hother) value]
      exact hfresh other hother
  · rintro ⟨⟨hnew, hnodup⟩, hfresh⟩
    refine ⟨hnodup, ?_⟩
    intro other hother
    have hne : other ≠ key := by
      rintro rfl
      exact hnew hother
    rw [Entries.lookup_cons_of_ne hne]
    exact hfresh other (List.mem_cons_of_mem key hother)

/-- The walk across networks finds no error from here on exactly when the providers to
come differ from each other and from those met. -/
theorem repetitionsFrom_isValid_iff (seen : Seen) (index : Nat) (networks : List Network) :
    Findings.isValid (repetitionsFrom seen index networks) = true ↔
      (networks.filterMap Network.provider?).Nodup ∧
        ∀ key ∈ networks.filterMap Network.provider?, seen.names.lookup key = none := by
  induction networks generalizing seen index with
  | nil => simp [repetitionsFrom, Findings.isValid]
  | cons n rest ih =>
    rw [repetitionsFrom, Findings.isValid_append, Findings.isValid_append, isValid_repeatedUrl,
      Bool.and_true, Bool.and_eq_true, ih]
    cases hkey : n.provider? with
    | none =>
      rw [List.filterMap_cons_none hkey, repeatedName_of_none n index _ hkey]
      simp [Findings.isValid]
    | some key =>
      rw [List.filterMap_cons_some hkey]
      rcases repeatedName_of_some n index seen.names hkey with
        ⟨first, message, hseen, hrepeated⟩ | ⟨hseen, hrepeated⟩
      · -- a key that has been met: there is an error here, and the keys are not fresh
        rw [hrepeated]
        constructor
        · rintro ⟨herror, -⟩
          simp [Findings.isValid, Network.violation, Violation.isError] at herror
        · rintro ⟨-, hfresh⟩
          rw [hfresh key List.mem_cons_self] at hseen
          cases hseen
      · -- a new key: no error here, and the key counts as met from now on
        rw [hrepeated, ← fresh_cons_iff (index, n.nameOrEmpty) hseen]
        exact and_iff_right rfl

theorem repetitions_isValid_iff (networks : List Network) :
    Findings.isValid (repetitions networks) = true ↔
      (networks.filterMap Network.provider?).Nodup := by
  rw [repetitions, repetitionsFrom_isValid_iff]
  exact and_iff_left fun key _ => rfl

theorem of_mem_repeatedName {seen : List (String × Nat × String)} {n : Network} {index : Nat}
    {v : Violation} (h : v ∈ (repeatedName seen n index).1) :
    ∃ message, v = n.violation index .error Code.duplicateName .name message := by
  unfold repeatedName at h
  dsimp only at h
  split at h
  · cases h
  · split at h
    · exact ⟨_, List.mem_singleton.mp h⟩
    · cases h

theorem of_mem_repeatedUrl {seen : List (String × Nat)} {n : Network} {index : Nat}
    {v : Violation} (h : v ∈ (repeatedUrl seen n index).1) :
    ∃ message, v = n.violation index .warning Code.duplicateUrl .url message := by
  unfold repeatedUrl at h
  dsimp only at h
  split at h
  · cases h
  · split at h
    · exact ⟨_, List.mem_singleton.mp h⟩
    · cases h

/-- What is found across networks, each at a network where it stands: repeated names, which
are errors, and repeated addresses, which are warnings. -/
theorem of_mem_repetitionsFrom {seen : Seen} {index : Nat} {networks : List Network}
    {v : Violation} (h : v ∈ repetitionsFrom seen index networks) :
    ∃ (i : Nat) (n : Network) (message : String), networks[i]? = some n ∧
      (v = n.violation (index + i) .error Code.duplicateName .name message ∨
        v = n.violation (index + i) .warning Code.duplicateUrl .url message) := by
  induction networks generalizing seen index with
  | nil => cases h
  | cons n rest ih =>
    rw [repetitionsFrom, List.mem_append, List.mem_append] at h
    rcases h with (h | h) | h
    · obtain ⟨message, hv⟩ := of_mem_repeatedName h
      exact ⟨0, n, message, rfl, .inl hv⟩
    · obtain ⟨message, hv⟩ := of_mem_repeatedUrl h
      exact ⟨0, n, message, rfl, .inr hv⟩
    · obtain ⟨i, m, message, hm, hv⟩ := ih h
      rw [Nat.add_assoc, Nat.add_comm 1 i] at hv
      exact ⟨i + 1, m, message, hm, hv⟩

/-! ## The verdict -/

theorem filterMap_provider? {networks : List Network} (h : ∀ n ∈ networks, n.Acceptable) :
    networks.filterMap Network.provider? =
      networks.map fun n => Identifier.storage n.nameOrEmpty := by
  induction networks with
  | nil => rfl
  | cons n rest ih =>
    rw [List.filterMap_cons_some (h n List.mem_cons_self).provider?_eq, List.map_cons,
      ih fun m hm => h m (List.mem_cons_of_mem n hm)]

/-- A manifest is checked to the end if its fields are.  Nothing stops the walk across networks. -/
theorem all_eq_ok_iff {networks : List Network} {findings : Findings} :
    Check.all networks = .ok findings ↔
      ∃ byFields, fields networks = .ok byFields ∧ byFields ++ repetitions networks = findings := by
  constructor
  · intro h
    obtain ⟨byFields, hfields, h⟩ := Attempt.bind_eq_ok_iff.mp h
    exact ⟨byFields, hfields, Except.ok.inj h⟩
  · rintro ⟨byFields, hfields, rfl⟩
    rw [Check.all, hfields]
    rfl

/-- A manifest that has been checked is valid if and only if it is acceptable. -/
theorem isValid_iff_acceptable {networks : List Network} {findings : Findings}
    (h : Check.all networks = .ok findings) :
    findings.isValid = true ↔ Acceptable networks := by
  obtain ⟨byFields, hfields, rfl⟩ := all_eq_ok_iff.mp h
  have herrors := areErrors_of_fieldsFrom hfields
  have hall : networks.flatMap Network.fieldCodes = [] ↔ ∀ n ∈ networks, n.Acceptable := by
    simp only [List.flatMap_eq_nil_iff, Network.fieldCodes_eq_nil_iff]
  rw [Findings.isValid_append, Bool.and_eq_true, herrors.isValid_iff, hall,
    repetitions_isValid_iff]
  constructor
  · rintro ⟨hn, hdistinct⟩
    exact ⟨hn, filterMap_provider? hn ▸ hdistinct⟩
  · rintro ⟨hn, hdistinct⟩
    exact ⟨hn, filterMap_provider? hn ▸ hdistinct⟩

/-- What has the code of a repetition is found by the walk across networks, and nowhere else. -/
theorem mem_iff_mem_repetitions {networks : List Network} {findings : Findings}
    (h : Check.all networks = .ok findings) {v : Violation}
    (hcode : v.code = Code.duplicateName ∨ v.code = Code.duplicateUrl) :
    v ∈ findings ↔ v ∈ repetitions networks := by
  obtain ⟨byFields, hfields, rfl⟩ := all_eq_ok_iff.mp h
  rw [List.mem_append, or_iff_right]
  intro hv
  have hmem : v.code ∈ byFields.codes := List.mem_map_of_mem hv
  rw [(areErrors_of_fieldsFrom hfields).codes_eq, List.mem_flatMap] at hmem
  obtain ⟨n, -, hn⟩ := hmem
  exact n.not_mem_fieldCodes hcode hn

/-- Only a repeated address has the code of one, and it is a warning. -/
theorem isError_eq_false_of_duplicateUrl {networks : List Network} {findings : Findings}
    (h : Check.all networks = .ok findings) {v : Violation} (hv : v ∈ findings)
    (hcode : v.code = Code.duplicateUrl) : v.isError = false := by
  have hv := (mem_iff_mem_repetitions h (.inr hcode)).mp hv
  obtain ⟨i, n, message, -, rfl | rfl⟩ := of_mem_repetitionsFrom hv
  · exact absurd hcode (by simp [Network.violation, Code.duplicateName, Code.duplicateUrl])
  · rfl

/-- Whatever is found is found at a network, and says at which. -/
theorem of_mem_all {networks : List Network} {findings : Findings}
    (h : Check.all networks = .ok findings) {v : Violation} (hv : v ∈ findings) :
    ∃ (i : Nat) (n : Network) (severity : Severity) (code : String) (field : Network.Field)
      (message : String), networks[i]? = some n ∧
        v = n.violation i severity code field message := by
  obtain ⟨byFields, hfields, rfl⟩ := all_eq_ok_iff.mp h
  rcases List.mem_append.mp hv with hv | hv
  · obtain ⟨i, n, code, field, message, hn, rfl⟩ := of_mem_fieldsFrom hfields hv
    exact ⟨i, n, .error, code, field, message, hn, by rw [Nat.zero_add]⟩
  · obtain ⟨i, n, message, hn, rfl | rfl⟩ := of_mem_repetitionsFrom hv
    · exact ⟨i, n, .error, _, .name, message, hn, by rw [Nat.zero_add]⟩
    · exact ⟨i, n, .warning, _, .url, message, hn, by rw [Nat.zero_add]⟩

/-- A manifest of networks that can be checked is checked to the end. -/
theorem all_eq_ok {networks : List Network} (h : ∀ n ∈ networks, n.IsCheckable) :
    ∃ findings, Check.all networks = .ok findings := by
  obtain ⟨byFields, hfields⟩ := fieldsFrom_eq_ok h 0
  exact ⟨_, all_eq_ok_iff.mpr ⟨byFields, hfields, rfl⟩⟩

/-- **What the checks accept, exactly.**  The check of a manifest whose values can be shown
comes to an end, and finds no error if and only if the manifest is acceptable.  Repeated
addresses are not among the errors. -/
theorem all_isValid_iff {networks : List Network} (h : ∀ n ∈ networks, n.HasShortIntegers) :
    ∃ findings, Check.all networks = .ok findings ∧
      (findings.isValid = true ↔ Acceptable networks) ∧
        ∀ v ∈ findings, v.code = Code.duplicateUrl → v.isError = false := by
  obtain ⟨findings, hfindings⟩ := all_eq_ok fun n hn => (h n hn).isCheckable
  exact ⟨findings, hfindings, isValid_iff_acceptable hfindings,
    fun v hv => isError_eq_false_of_duplicateUrl hfindings hv⟩

/-- Two networks whose names differ and derive one provider, the second with an address that is no
string. -/
def sharedProvider : List Network :=
  [⟨.string "straße", .string "https://one.example", .integer 660⟩,
   ⟨.string "STRASSE", .array [.integer (-1), .string "it's"], .absent⟩]

theorem sharedProvider_isValid_iff : (∀ n ∈ sharedProvider, n.HasShortIntegers) ∧
    ∃ findings, Check.all sharedProvider = .ok findings ∧
      (findings.isValid = true ↔ Acceptable sharedProvider) ∧
        ∀ v ∈ findings, v.code = Code.duplicateUrl → v.isError = false := by
  have hshort : ∀ n ∈ sharedProvider, n.HasShortIntegers := by
    have hunits : IsShort 660 := by decide
    have hitem : IsShort (-1) := by decide
    simp [sharedProvider, Network.HasShortIntegers, Network.values, Value.HasShortIntegers,
      Value.HaveShortIntegers, hunits, hitem]
  exact ⟨hshort, all_isValid_iff hshort⟩

end Check

end ProviderBindings
