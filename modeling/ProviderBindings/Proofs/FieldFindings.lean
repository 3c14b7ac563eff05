import ProviderBindings.Check.Fields
import ProviderBindings.Proofs.Attempt
import ProviderBindings.Proofs.ValueText

/-! # What the checks of single networks find

A check of one field finds at most one thing, always an error, and which one depends on
the field's value alone: `nameCode?`, `urlCode?` and `unitsCode?` give its code.  All
that is found in the fields of a manifest is then known by its codes
(`areErrors_of_fieldsFrom`), up to the wording; and that wording exists whenever the values
can be shown (`fieldsFrom_eq_ok`).
-/
namespace ProviderBindings

/-- The code of what is wrong with a name. -/
def Network.nameCode? : Value → Option String
  | .string name =>
    if name = "" then some Code.missingName
    else if Identifier.isLine (Identifier.storage name) then none
    else some Code.invalidIdentifier
  | _ => some Code.invalidName

/-- The code of what is wrong with an address. -/
def Network.urlCode? : Value → Option String
  | .string url =>
    if url = "" then some Code.missingUrl
    else if url.toList.any Network.breaksLiteral then some Code.unsafeUrl
    else none
  | _ => some Code.invalidUrl

/-- The code of what is wrong with a bound on the work per second. -/
def Network.unitsCode? (units : Value) : Option String :=
  if Network.unitsAllowed units then none else some Code.invalidComputeUnits

/-- The codes of what is wrong with the fields of a network. -/
def Network.fieldCodes (n : Network) : List String :=
  (Network.nameCode? n.name).toList ++ (Network.urlCode? n.url).toList ++
    (Network.unitsCode? n.computeUnits).toList

namespace Network

variable {v : Value} {code : String}

/-- A name that is a string and derives no identifier is either missing or not well formed. -/
theorem nameCode?_string {name : String} (h : nameCode? (.string name) = some code) :
    code = Code.missingName ∨ code = Code.invalidIdentifier := by
  simp only [nameCode?] at h
  split at h
  · exact .inl (Option.some.inj h).symm
  · split at h
    · cases h
    · exact .inr (Option.some.inj h).symm

/-- An address that is a string and cannot be embedded is either missing or not safe. -/
theorem urlCode?_string {url : String} (h : urlCode? (.string url) = some code) :
    code = Code.missingUrl ∨ code = Code.unsafeUrl := by
  simp only [urlCode?] at h
  split at h
  · exact .inl (Option.some.inj h).symm
  · split at h
    · exact .inr (Option.some.inj h).symm
    · cases h

theorem mem_of_nameCode? (h : nameCode? v = some code) :
    code ∈ [Code.missingName, Code.invalidIdentifier, Code.invalidName] := by
  cases v with
  | string name => rcases nameCode?_string h with rfl | rfl <;> decide
  | _ =>
    cases h
    decide

theorem mem_of_urlCode? (h : urlCode? v = some code) :
    code ∈ [Code.missingUrl, Code.unsafeUrl, Code.invalidUrl] := by
  cases v with
  | string url => rcases urlCode?_string h with rfl | rfl <;> decide
  | _ =>
    cases h
    decide

theorem mem_of_unitsCode? (h : unitsCode? v = some code) :
    code ∈ [Code.invalidComputeUnits] := by
  unfold unitsCode? at h
  split at h
  · cases h
  · cases h
    decide

theorem mem_fieldCodes_iff {n : Network} : code ∈ n.fieldCodes ↔
    nameCode? n.name = some code ∨ urlCode? n.url = some code ∨
      unitsCode? n.computeUnits = some code := by
  simp only [fieldCodes, List.mem_append, Option.mem_toList, or_assoc]

end Network

/-- Findings that are errors throughout and have the given codes. -/
structure Findings.AreErrors (f : Findings) (codes : List String) : Prop where
  codes_eq : f.codes = codes
  isError : ∀ v ∈ f, v.isError = true

namespace Findings

theorem AreErrors.nil : AreErrors [] [] := ⟨rfl, by simp⟩

theorem AreErrors.append {f g : Findings} {codes others : List String} (hf : f.AreErrors codes)
    (hg : g.AreErrors others) : AreErrors (f ++ g) (codes ++ others) := by
  refine ⟨by rw [codes_append, hf.codes_eq, hg.codes_eq], ?_⟩
  intro v hv
  exact (List.mem_append.mp hv).elim (hf.isError v) (hg.isError v)

/-- Errors leave a manifest valid only if there are none. -/
theorem AreErrors.isValid_iff {f : Findings} {codes : List String} (h : f.AreErrors codes) :
    f.isValid = true ↔ codes = [] := by
  rw [← h.codes_eq, Findings.codes, List.map_eq_nil_iff, Findings.isValid]
  cases f with
  | nil => simp
  | cons v rest => simp [h.isError v List.mem_cons_self]

end Findings

namespace Network

variable {n : Network} {index : Nat} {f : Findings}

/-- What is found in a field of the network at `index`, from its code, if there is one. -/
def finding (n : Network) (index : Nat) (field : Field) (code? : Option String)
    (message : String) : Findings :=
  code?.toList.map fun code => n.violation index .error code field message

theorem areErrors_finding (field : Field) (code? : Option String) (message : String) :
    (n.finding index field code? message).AreErrors code?.toList := by
  cases code? with
  | none => exact .nil
  | some code => exact ⟨rfl, by simp [finding, violation, Violation.isError]⟩

theorem findingsOnName_eq (h : n.findingsOnName index = .ok f) :
    ∃ message, f = n.finding index .name (nameCode? n.name) message := by
  unfold findingsOnName at h
  cases hname : n.name with
  | string name =>
    simp only [hname] at h
    unfold nameCode?
    by_cases hempty : name = ""
    · rw [if_pos hempty] at h
      obtain ⟨url, -, hf⟩ := Attempt.bind_eq_ok_iff.mp h
      cases hf
      exact ⟨_, by simp only [hempty, if_pos]; rfl⟩
    · rw [if_neg hempty] at h
      by_cases hline : Identifier.isLine (Identifier.storage name) = true
      · rw [if_pos hline] at h
        cases h
        exact ⟨"", by simp only [hempty, hline, if_pos, if_neg, not_false_eq_true]; rfl⟩
      · rw [if_neg hline] at h
        cases h
        exact ⟨_, by simp only [hempty, hline, if_neg, not_false_eq_true]; rfl⟩
  | _ =>
    simp only [hname] at h
    obtain ⟨text, -, hf⟩ := Attempt.bind_eq_ok_iff.mp h
    cases hf
    exact ⟨_, rfl⟩

theorem findingsOnUrl_eq (h : n.findingsOnUrl index = .ok f) :
    ∃ message, f = n.finding index .url (urlCode? n.url) message := by
  unfold findingsOnUrl at h
  cases hurl : n.url with
  | string url =>
    simp only [hurl] at h
    unfold urlCode?
    by_cases hempty : url = ""
    · rw [if_pos hempty] at h
      cases h
      exact ⟨_, by simp only [hempty, if_pos]; rfl⟩
    · rw [if_neg hempty] at h
      by_cases hbreaks : url.toList.any breaksLiteral = true
      · rw [if_pos hbreaks] at h
        cases h
        exact ⟨_, by simp only [hempty, hbreaks, if_pos, if_neg, not_false_eq_true]; rfl⟩
      · rw [if_neg hbreaks] at h
        cases h
        exact ⟨"", by simp only [hempty, hbreaks, if_neg, not_false_eq_true]; rfl⟩
  | _ =>
    simp only [hurl] at h
    obtain ⟨text, -, hf⟩ := Attempt.bind_eq_ok_iff.mp h
    cases hf
    exact ⟨_, rfl⟩

theorem findingsOnComputeUnits_eq (h : n.findingsOnComputeUnits index = .ok f) :
    ∃ message, f = n.finding index .computeUnits (unitsCode? n.computeUnits) message := by
  unfold findingsOnComputeUnits at h
  unfold unitsCode?
  by_cases hallowed : unitsAllowed n.computeUnits = true
  · rw [if_pos hallowed] at h
    cases h
    exact ⟨"", by rw [if_pos hallowed]; rfl⟩
  · rw [if_neg hallowed] at h
    obtain ⟨text, -, hf⟩ := Attempt.bind_eq_ok_iff.mp h
    cases hf
    exact ⟨_, by rw [if_neg hallowed]; rfl⟩

/-- What is found in the fields of a network is known but for the wording. -/
theorem findingsOnFields_eq (h : n.findingsOnFields index = .ok f) :
    ∃ onName onUrl onUnits, f = n.finding index .name (nameCode? n.name) onName ++
      n.finding index .url (urlCode? n.url) onUrl ++
        n.finding index .computeUnits (unitsCode? n.computeUnits) onUnits := by
  obtain ⟨byName, hname, h⟩ := Attempt.bind_eq_ok_iff.mp h
  obtain ⟨byUrl, hurl, h⟩ := Attempt.bind_eq_ok_iff.mp h
  obtain ⟨byUnits, hunits, h⟩ := Attempt.bind_eq_ok_iff.mp h
  cases h
  obtain ⟨onName, rfl⟩ := findingsOnName_eq hname
  obtain ⟨onUrl, rfl⟩ := findingsOnUrl_eq hurl
  obtain ⟨onUnits, rfl⟩ := findingsOnComputeUnits_eq hunits
  exact ⟨onName, onUrl, onUnits, rfl⟩

theorem areErrors_of_findingsOnFields (h : n.findingsOnFields index = .ok f) :
    f.AreErrors n.fieldCodes := by
  obtain ⟨onName, onUrl, onUnits, rfl⟩ := findingsOnFields_eq h
  exact ((areErrors_finding ..).append (areErrors_finding ..)).append (areErrors_finding ..)

theorem exists_mem_of_nameCode? (h : n.findingsOnFields index = .ok f) {code : String}
    (hcode : nameCode? n.name = some code) :
    ∃ message, n.violation index .error code .name message ∈ f := by
  obtain ⟨onName, onUrl, onUnits, rfl⟩ := findingsOnFields_eq h
  refine ⟨onName, List.mem_append_left _ (List.mem_append_left _ ?_)⟩
  simp [finding, hcode]

theorem of_mem_finding {field : Field} {code? : Option String} {message : String} {v : Violation}
    (h : v ∈ n.finding index field code? message) :
    ∃ code, v = n.violation index .error code field message := by
  obtain ⟨code, -, rfl⟩ := List.mem_map.mp h
  exact ⟨code, rfl⟩

/-- What is found in the fields of a network names the network. -/
theorem of_mem_findingsOnFields (h : n.findingsOnFields index = .ok f) {v : Violation}
    (hv : v ∈ f) : ∃ code field message, v = n.violation index .error code field message := by
  obtain ⟨onName, onUrl, onUnits, rfl⟩ := findingsOnFields_eq h
  rcases List.mem_append.mp hv with hv | hv
  · rcases List.mem_append.mp hv with hv | hv
    · obtain ⟨code, rfl⟩ := of_mem_finding hv
      exact ⟨code, .name, onName, rfl⟩
    · obtain ⟨code, rfl⟩ := of_mem_finding hv
      exact ⟨code, .url, onUrl, rfl⟩
  · obtain ⟨code, rfl⟩ := of_mem_finding hv
    exact ⟨code, .computeUnits, onUnits, rfl⟩

/-- Whether the values that messages on a network may show can be shown: its name and its
address, and its bound unless that is as it should be. -/
structure IsCheckable (n : Network) : Prop where
  name : n.name.HasShortIntegers
  url : n.url.HasShortIntegers
  units : unitsAllowed n.computeUnits = true ∨ n.computeUnits.HasShortIntegers

theorem HasShortIntegers.isCheckable (h : n.HasShortIntegers) : n.IsCheckable :=
  ⟨h n.name (by simp [values]), h n.url (by simp [values]), .inr (h n.computeUnits (by simp [values]))⟩

theorem findingsOnName_eq_ok (hname : n.name.HasShortIntegers) (hurl : n.url.HasShortIntegers)
    (index : Nat) : ∃ f, n.findingsOnName index = .ok f := by
  obtain ⟨name, hname⟩ := Value.inspect_eq_ok hname
  obtain ⟨url, hurl⟩ := Value.inspect_eq_ok hurl
  unfold findingsOnName
  split
  · -- the message on an empty name shows the address
    rw [hurl]
    split
    · exact ⟨_, rfl⟩
    · split <;> exact ⟨_, rfl⟩
  · rw [hname]
    exact ⟨_, rfl⟩

theorem findingsOnUrl_eq_ok (hurl : n.url.HasShortIntegers) (index : Nat) :
    ∃ f, n.findingsOnUrl index = .ok f := by
  obtain ⟨url, hurl⟩ := Value.inspect_eq_ok hurl
  unfold findingsOnUrl
  split
  · split
    · exact ⟨_, rfl⟩
    · split <;> exact ⟨_, rfl⟩
  · rw [hurl]
    exact ⟨_, rfl⟩

theorem findingsOnComputeUnits_eq_ok
    (h : unitsAllowed n.computeUnits = true ∨ n.computeUnits.HasShortIntegers) (index : Nat) :
    ∃ f, n.findingsOnComputeUnits index = .ok f := by
  unfold findingsOnComputeUnits
  rcases h with hallowed | hshort
  · exact ⟨[], if_pos hallowed⟩
  · obtain ⟨units, hunits⟩ := Value.inspect_eq_ok hshort
    rw [hunits]
    split <;> exact ⟨_, rfl⟩

/-- The fields of a network can be checked when what messages may show can be shown. -/
theorem findingsOnFields_eq_ok (h : n.IsCheckable) (index : Nat) :
    ∃ f, n.findingsOnFields index = .ok f := by
  obtain ⟨f, hf⟩ := findingsOnName_eq_ok h.name h.url index
  obtain ⟨g, hg⟩ := findingsOnUrl_eq_ok h.url index
  obtain ⟨k, hk⟩ := findingsOnComputeUnits_eq_ok h.units index
  exact ⟨f ++ g ++ k, by rw [findingsOnFields, hf, hg, hk]; rfl⟩

end Network

namespace Check

/-- The fields of networks are checked to the end if those of the first are and those of the
rest, which say between them all that is found. -/
theorem fieldsFrom_cons_eq_ok_iff {n : Network} {rest : List Network} {index : Nat}
    {f : Findings} : fieldsFrom index (n :: rest) = .ok f ↔ ∃ here there,
      n.findingsOnFields index = .ok here ∧ fieldsFrom (index + 1) rest = .ok there ∧
        here ++ there = f := by
  constructor
  · intro h
    obtain ⟨here, hhere, h⟩ := Attempt.bind_eq_ok_iff.mp h
    obtain ⟨there, hthere, h⟩ := Attempt.bind_eq_ok_iff.mp h
    exact ⟨here, there, hhere, hthere, Except.ok.inj h⟩
  · rintro ⟨here, there, hhere, hthere, rfl⟩
    rw [fieldsFrom, hhere, hthere]
    rfl

/-- **What is found in the fields of a manifest** is all errors, network by network. -/
theorem areErrors_of_fieldsFrom {networks : List Network} {index : Nat} {f : Findings}
    (h : fieldsFrom index networks = .ok f) : f.AreErrors (networks.flatMap Network.fieldCodes) := by
  induction networks generalizing index f with
  | nil =>
    cases h
    exact .nil
  | cons n rest ih =>
    obtain ⟨here, there, hhere, hthere, rfl⟩ := fieldsFrom_cons_eq_ok_iff.mp h
    exact (Network.areErrors_of_findingsOnFields hhere).append (ih hthere)

/-- Everything found in the fields of a manifest is an error of a network where it stands. -/
theorem of_mem_fieldsFrom {networks : List Network} {index : Nat} {f : Findings}
    (h : fieldsFrom index networks = .ok f) {v : Violation} (hv : v ∈ f) :
    ∃ (i : Nat) (n : Network) (code : String) (field : Network.Field) (message : String),
      networks[i]? = some n ∧ v = n.violation (index + i) .error code field message := by
  induction networks generalizing index f with
  | nil =>
    cases h
    cases hv
  | cons n rest ih =>
    obtain ⟨here, there, hhere, hthere, rfl⟩ := fieldsFrom_cons_eq_ok_iff.mp h
    rcases List.mem_append.mp hv with hv | hv
    · obtain ⟨code, field, message, rfl⟩ := Network.of_mem_findingsOnFields hhere hv
      exact ⟨0, n, code, field, message, rfl, rfl⟩
    · obtain ⟨i, m, code, field, message, hm, rfl⟩ := ih hthere hv
      refine ⟨i + 1, m, code, field, message, hm, ?_⟩
      rw [Nat.add_right_comm, Nat.add_assoc]

/-- What is found in the fields of one network is found in those of the manifest. -/
theorem exists_findingsOnFields {networks : List Network} {index : Nat} {f : Findings}
    (h : fieldsFrom index networks = .ok f) {i : Nat} {n : Network} (hn : networks[i]? = some n) :
    ∃ found, n.findingsOnFields (index + i) = .ok found ∧ ∀ v ∈ found, v ∈ f := by
  induction networks generalizing index f i with
  | nil => simp at hn
  | cons m rest ih =>
    obtain ⟨here, there, hhere, hthere, rfl⟩ := fieldsFrom_cons_eq_ok_iff.mp h
    cases i with
    | zero =>
      cases hn
      exact ⟨here, hhere, fun v hv => List.mem_append_left _ hv⟩
    | succ i =>
      obtain ⟨found, hfound, hmem⟩ := ih hthere hn
      rw [Nat.add_right_comm] at hfound
      exact ⟨found, hfound, fun v hv => List.mem_append_right _ (hmem v hv)⟩

theorem fieldsFrom_eq_ok {networks : List Network} (h : ∀ n ∈ networks, n.IsCheckable)
    (index : Nat) : ∃ f, fieldsFrom index networks = .ok f := by
  induction networks generalizing index with
  | nil => exact ⟨[], rfl⟩
  | cons n rest ih =>
    obtain ⟨here, hhere⟩ := Network.findingsOnFields_eq_ok (h n List.mem_cons_self) index
    obtain ⟨there, hthere⟩ := ih (fun m hm => h m (List.mem_cons_of_mem n hm)) (index + 1)
    exact ⟨_, fieldsFrom_cons_eq_ok_iff.mpr ⟨here, there, hhere, hthere, rfl⟩⟩

end Check

end ProviderBindings
