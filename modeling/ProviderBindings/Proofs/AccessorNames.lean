import ProviderBindings.Proofs.Naming
import ProviderBindings.Proofs.SmallLetters

/-! # Names that share an accessor

The identifier of an accessor is that of the provider in small letters.  Names with one
provider have one accessor; the converse fails, since small letters confuse five characters
with their twins (`storage_ne_of_accessor_eq`).  Beyond these nothing is lost
(`accessor_eq_iff`): names have one accessor exactly when their providers agree up to twins.
No name that derives an identifier has one of the five characters, so that the names which
the checks let through have one accessor only if they have one provider.
-/
namespace ProviderBindings.Identifier
open Text

theorem inUpper_storage (name : String) : ∀ c ∈ (storage name).toList, InUpper c := by
  have hending : upper storageEnding.toList = storageEnding.toList := by
    rw [upper_of_ascii (List.all_eq_true.mp (by decide))]
    decide
  intro c hc
  rw [storage_toList, ← hending, ← upper_append] at hc
  exact inUpper_of_mem_upper hc

theorem not_hasTwin_storage {name : String} (h : ∀ c ∈ name.toList, ¬ HasTwin c) :
    ∀ c ∈ (storage name).toList, ¬ HasTwin c := by
  intro c hc
  rw [storage_toList] at hc
  rcases List.mem_append.mp hc with hc | hc
  · exact not_hasTwin_of_mem_upper h hc
  · exact not_hasTwin_of_all (by decide) c hc

theorem isNameChar_of_hasTwin {c : Char} (h : HasTwin c) : isNameChar c = false := by
  obtain ⟨e, he, rfl⟩ := List.mem_map.mp h
  exact (by decide : ∀ e ∈ twins, isNameChar e.1 = false) e he

/-- No name that derives an identifier has a character with a twin. -/
theorem IsName.not_hasTwin {name : String} (h : IsName name) : ∀ c ∈ name.toList, ¬ HasTwin c := by
  intro c hc htwin
  have hchar := h.chars c hc
  rw [isNameChar_of_hasTwin htwin] at hchar
  cases hchar

theorem accessor_eq_iff_lower {name other : String} : accessor name = accessor other ↔
    lower (storage name).toList = lower (storage other).toList := by
  rw [← String.toList_inj, accessor_toList, accessor_toList, List.append_cancel_left_eq]

/-- **Which names share an accessor**: those whose providers agree once every character is
replaced by its twin.  So names without a character that has a twin share an accessor exactly
when they share a provider; and names that derive identifiers are such names. -/
theorem accessor_eq_iff (name other : String) :
    (accessor name = accessor other ↔
      plain (storage name).toList = plain (storage other).toList) ∧
    ((∀ c ∈ name.toList, ¬ HasTwin c) → (∀ c ∈ other.toList, ¬ HasTwin c) →
      (storage name = storage other ↔ accessor name = accessor other)) ∧
    (IsName name → IsName other → (storage name = storage other ↔ accessor name = accessor other)) := by
  have hiff : accessor name = accessor other ↔
      plain (storage name).toList = plain (storage other).toList :=
    accessor_eq_iff_lower.trans (lower_eq_lower_iff (inUpper_storage name) (inUpper_storage other))
  have hwithout : (∀ c ∈ name.toList, ¬ HasTwin c) → (∀ c ∈ other.toList, ¬ HasTwin c) →
      (storage name = storage other ↔ accessor name = accessor other) := by
    intro hname hother
    rw [hiff, plain_of_not_hasTwin (not_hasTwin_storage hname),
      plain_of_not_hasTwin (not_hasTwin_storage hother), String.toList_inj]
  exact ⟨hiff, hwithout, fun hname hother => hwithout hname.not_hasTwin hother.not_hasTwin⟩

/-- Names in small letters and in capitals: Greek ones, which end in a sigma, and two that
derive an identifier. -/
theorem accessor_finalSigma : (∀ c ∈ "σοφός".toList, ¬ HasTwin c) ∧
    (∀ c ∈ "ΣΟΦΌΣ".toList, ¬ HasTwin c) ∧
    (storage "σοφός" = storage "ΣΟΦΌΣ" ↔ accessor "σοφός" = accessor "ΣΟΦΌΣ") ∧
    IsName "straße" ∧ IsName "STRASSE" ∧
    (storage "straße" = storage "STRASSE" ↔ accessor "straße" = accessor "STRASSE") := by
  have hsmall : ∀ c ∈ "σοφός".toList, ¬ HasTwin c := not_hasTwin_of_all (by decide)
  have hcapital : ∀ c ∈ "ΣΟΦΌΣ".toList, ¬ HasTwin c := not_hasTwin_of_all (by decide)
  have hname : IsName "straße" := ⟨by decide, List.all_eq_true.mp (by decide), by rintro c ⟨⟩; decide⟩
  have hother : IsName "STRASSE" := ⟨by decide, List.all_eq_true.mp (by decide), by rintro c ⟨⟩; decide⟩
  exact ⟨hsmall, hcapital, (accessor_eq_iff "σοφός" "ΣΟΦΌΣ").2.1 hsmall hcapital, hname, hother,
    (accessor_eq_iff "straße" "STRASSE").2.2 hname hother⟩

/-- The Kelvin sign has the accessor of `K` but not its provider. -/
theorem storage_ne_of_accessor_eq : ¬ ∀ name other : String,
    (storage name = storage other ↔ accessor name = accessor other) := by
  intro h
  obtain ⟨hsame, hne⟩ :
      accessor "K" = accessor "\u212A" ∧ storage "K" ≠ storage "\u212A" := by decide +kernel
  exact hne ((h "K" "\u212A").mpr hsame)

end ProviderBindings.Identifier
