import ProviderBindings.Proofs.Repetitions
import ProviderBindings.Proofs.SmallLetters

/-! # Names that differ in case only

Two names are compared by their providers, that is in upper case.  Names that are equal in
lower case need not be equal in upper case.  But they are if both derive identifiers, for
then small letters forget nothing that capitals keep (`Identifier.upper_lower`).  So of two
networks whose names are equal in either case at least one is reported
(`Check.case_variants_reported`): for its own name, or the later one for repeating the
earlier.
-/
namespace ProviderBindings

namespace Text

/-- Without a capital sigma, lower case is taken character by character. -/
theorem lower_of_no_sigma {text : List Char} (h : 'Σ' ∉ text) :
    lower text = text.flatMap lowerChar := by
  have happend := lowerAfter_append h false []
  rwa [List.append_nil, lowerAfter, List.append_nil] at happend

/-- Whether two texts are equal in lower case or in upper case. -/
def IsCaseVariant (s t : String) : Prop :=
  lower s.toList = lower t.toList ∨ upper s.toList = upper t.toList

end Text

namespace Identifier
open Text

theorem lowerChar_ligature : ∀ n ∈ ligatures, lowerChar (Char.ofNat n) = [Char.ofNat n] := by
  decide +kernel

/-- The upper case of a character of a name is that of its lower case. -/
theorem upper_lowerChar {c : Char} (h : isNameChar c = true) :
    upper (lowerChar c) = upperChar c := by
  rw [isNameChar, Bool.or_eq_true] at h
  rcases h with hpart | hlig
  · have hc := isAscii_of_isPart hpart
    obtain ⟨hlower, hback⟩ : isAscii c.toLower = true ∧ c.toLower.toUpper = c.toUpper :=
      forall_ascii (P := fun c => isAscii c.toLower = true ∧ c.toLower.toUpper = c.toUpper)
        (by decide +kernel) hc
    rw [lowerChar_of_ascii hc, upperChar_of_ascii hc, upper, List.flatMap_singleton,
      upperChar_of_ascii hlower, hback]
  · have hsame := lowerChar_ligature c.toNat (by simpa using hlig)
    rw [Char.ofNat_toNat] at hsame
    rw [hsame, upper, List.flatMap_singleton]

/-- The lower case of a name that derives identifiers has the same upper case. -/
theorem upper_lower {name : String} (h : IsName name) :
    upper (lower name.toList) = upper name.toList := by
  have hsigma : 'Σ' ∉ name.toList := fun hmem => absurd (h.chars _ hmem) (by decide)
  have hchars : name.toList.flatMap (fun c => upper (lowerChar c)) = name.toList.flatMap upperChar :=
    List.flatMap_congr fun c hc => upper_lowerChar (h.chars c hc)
  rw [lower_of_no_sigma hsigma, upper, List.flatMap_assoc]
  exact hchars

theorem storage_eq_of_upper_eq {name other : String}
    (h : upper name.toList = upper other.toList) : storage name = storage other := by
  rw [storage, h, ← storage]

/-- Names that derive identifiers and differ in case only derive the same provider. -/
theorem storage_eq_of_isCaseVariant {name other : String} (hname : IsName name)
    (hother : IsName other) (h : IsCaseVariant name other) : storage name = storage other := by
  rcases h with hlower | hupper
  · refine storage_eq_of_upper_eq ?_
    rw [← upper_lower hname, hlower, upper_lower hother]
  · exact storage_eq_of_upper_eq hupper

end Identifier

namespace Network

variable {n : Network} {index : Nat} {name : String}

theorem isName_of_nameCode? (hname : n.name = .string name) (h : nameCode? n.name = none) :
    Identifier.IsName name := by
  obtain ⟨other, hother, hisName⟩ := nameCode?_eq_none_iff.mp h
  rw [hname, Value.string.injEq] at hother
  exact hother ▸ hisName

/-- A name in which nothing is found derives identifiers. -/
theorem isName_of_findingsOnName (hname : n.name = .string name)
    (h : n.findingsOnName index = .ok []) : Identifier.IsName name := by
  obtain ⟨message, hfinding⟩ := findingsOnName_eq h
  refine isName_of_nameCode? hname ?_
  cases hcode : nameCode? n.name with
  | none => rfl
  | some code => simp [finding, hcode] at hfinding

theorem provider?_of_isName (hname : n.name = .string name) (h : Identifier.IsName name) :
    n.provider? = some (Identifier.storage name) := by
  have hor : n.nameOrEmpty = name := by simp [nameOrEmpty, hname]
  rw [provider?, hor, if_neg h.nonempty]

end Network

namespace Check

/-- The codes of the errors in a name that is a string. -/
def nameErrors : List String := [Code.missingName, Code.invalidIdentifier, Code.duplicateName]

variable {networks : List Network} {findings : Findings}

/-- A name that is a string and derives no identifier is reported. -/
theorem exists_nameError (h : Check.all networks = .ok findings) {i : Nat} {n : Network}
    {name : String} (hn : networks[i]? = some n) (hname : n.name = .string name)
    (hcode : Network.nameCode? n.name ≠ none) :
    ∃ v ∈ findings, v.isError = true ∧ v.index = i ∧ v.code ∈ nameErrors := by
  obtain ⟨byFields, hfields, rfl⟩ := all_eq_ok_iff.mp h
  obtain ⟨code, hcode⟩ := Option.ne_none_iff_exists'.mp hcode
  obtain ⟨found, hfound, hmem⟩ := exists_findingsOnFields hfields hn
  obtain ⟨message, hv⟩ := Network.exists_mem_of_nameCode? hfound hcode
  refine ⟨_, List.mem_append_left _ (hmem _ hv), rfl, by rw [Nat.zero_add]; rfl, ?_⟩
  rw [hname] at hcode
  rcases Network.nameCode?_string hcode with rfl | rfl <;> simp [Network.violation, nameErrors]

/-- **Names that differ in case only are reported.**  Of two networks whose names are equal in
lower or in upper case one has an error in its name, so that the manifest is not valid.  And
neither case of a name in which nothing is found derives another provider than the name. -/
theorem case_variants_reported :
    (∀ {networks : List Network} {findings : Findings}, Check.all networks = .ok findings →
      ∀ {i j : Nat} {m n : Network} {name other : String}, i < j → networks[i]? = some m →
        networks[j]? = some n → m.name = .string name → n.name = .string other →
          Text.IsCaseVariant name other → findings.isValid = false ∧
            ∃ v ∈ findings, v.isError = true ∧ (v.index = i ∨ v.index = j) ∧
              v.code ∈ nameErrors) ∧
    (∀ {n : Network} {index : Nat} {name : String}, n.name = .string name →
      n.findingsOnName index = .ok [] →
        Identifier.storage (String.ofList (Text.lower name.toList)) = Identifier.storage name ∧
          Identifier.storage (String.ofList (Text.upper name.toList)) = Identifier.storage name) := by
  constructor
  · intro networks findings h i j m n name other hij hm hn hname hother hvariant
    have hreported : ∃ v ∈ findings, v.isError = true ∧ (v.index = i ∨ v.index = j) ∧
        v.code ∈ nameErrors := by
      by_cases hfirst : Network.nameCode? m.name = none
      · by_cases hsecond : Network.nameCode? n.name = none
        · -- both names derive identifiers: the second repeats the provider of the first
          have hisName := Network.isName_of_nameCode? hname hfirst
          have hisOther := Network.isName_of_nameCode? hother hsecond
          have hsame := Identifier.storage_eq_of_isCaseVariant hisName hisOther hvariant
          obtain ⟨byFields, -, h⟩ := Attempt.bind_eq_ok_iff.mp h
          cases h
          obtain ⟨message, hv⟩ := exists_duplicateName .nothing 0 hn
            (Network.provider?_of_isName hother hisOther)
            (.inr ⟨i, hij, m, hm, hsame ▸ Network.provider?_of_isName hname hisName⟩)
          refine ⟨_, List.mem_append_right _ hv, rfl, .inr (by rw [Nat.zero_add]; rfl), ?_⟩
          simp [Network.violation, nameErrors]
        · obtain ⟨v, hv, herror, hindex, hcode⟩ := exists_nameError h hn hother hsecond
          exact ⟨v, hv, herror, .inr hindex, hcode⟩
      · obtain ⟨v, hv, herror, hindex, hcode⟩ := exists_nameError h hm hname hfirst
        exact ⟨v, hv, herror, .inl hindex, hcode⟩
    refine ⟨?_, hreported⟩
    obtain ⟨v, hv, herror, -⟩ := hreported
    rw [Findings.isValid, Bool.not_eq_false', List.any_eq_true]
    exact ⟨v, hv, herror⟩
  · intro n index name hname h
    have hisName := Network.isName_of_findingsOnName hname h
    constructor
    · refine Identifier.storage_eq_of_upper_eq ?_
      rw [String.toList_ofList, Identifier.upper_lower hisName]
    · refine Identifier.storage_eq_of_upper_eq ?_
      rw [String.toList_ofList, Text.upper_upper]

/-- Three networks, of which the last one's name is the Kelvin sign: in lower case it is that
of the first. -/
def kelvinNames : List Network :=
  [⟨.string "K", .string "https://one.example", .absent⟩,
   ⟨.string "straße", .string "https://two.example", .integer 660⟩,
   ⟨.string "\u212A", .string "https://three.example", .absent⟩]

/-- What the checks find in them. -/
def kelvinError : Violation :=
  ⟨.error, Code.invalidIdentifier,
    "Name '\u212A' derives '\u212A_PROVIDER', which is not a valid identifier", 2, "\u212A", "name"⟩

theorem kelvinNames_reported : Check.all kelvinNames = .ok [kelvinError] ∧
    Text.IsCaseVariant "K" "\u212A" ∧ Findings.isValid [kelvinError] = false ∧
    (∃ v ∈ [kelvinError], v.isError = true ∧ (v.index = (0 : Nat) ∨ v.index = (2 : Nat)) ∧
      v.code ∈ nameErrors) ∧
    ∃ n : Network, n.name = .string "straße" ∧ n.findingsOnName 1 = .ok [] ∧
      Identifier.storage (String.ofList (Text.lower "straße".toList)) =
        Identifier.storage "straße" ∧
      Identifier.storage (String.ofList (Text.upper "straße".toList)) =
        Identifier.storage "straße" := by
  have hchecked : Check.all kelvinNames = .ok [kelvinError] :=
    Attempt.eq_ok_of_toOption (by decide +kernel)
  have hvariant : Text.IsCaseVariant "K" "\u212A" := .inl (by decide +kernel)
  have hnothing : (⟨.string "straße", .absent, .absent⟩ : Network).findingsOnName 1 = .ok [] :=
    Attempt.eq_ok_of_toOption (by decide +kernel)
  obtain ⟨hinvalid, hreported⟩ := case_variants_reported.1 hchecked (by decide : 0 < 2) rfl rfl rfl
    rfl hvariant
  exact ⟨hchecked, hvariant, hinvalid, hreported, _, rfl, hnothing,
    case_variants_reported.2 rfl hnothing⟩

end Check

end ProviderBindings
