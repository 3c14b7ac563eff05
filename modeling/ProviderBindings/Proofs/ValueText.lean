import Mathlib.Tactic.ByContra
import ProviderBindings.Network

/-! # When a value can be shown

An integer with more digits than the limit cannot be shown, and neither can a value that
holds one at any depth (`inspect_eq_error`).  Every other value can (`inspect_eq_ok`).
-/
namespace ProviderBindings

/-- Whether an integer is within the limit on its decimal digits. -/
def IsShort (n : Int) : Prop := (Text.decimal n.natAbs).length ≤ digitLimit

instance (n : Int) : Decidable (IsShort n) :=
  inferInstanceAs (Decidable ((Text.decimal n.natAbs).length ≤ digitLimit))

theorem length_decimal_le_iff {n width : Nat} (h : 0 < width) :
    (Text.decimal n).length ≤ width ↔ n < Power.ten width :=
  Nat.length_toDigits_le_iff (by decide) h

theorem isShort_iff (n : Int) : IsShort n ↔ n.natAbs < Power.ten digitLimit :=
  length_decimal_le_iff (by decide)

theorem integerText_of_isShort {n : Int} (h : IsShort n) :
    integerText n = .ok (String.ofList (Text.integer n)) :=
  if_pos ((isShort_iff n).mp h)

theorem integerText_of_not_isShort {n : Int} (h : ¬ IsShort n) :
    integerText n = .error .integerTooLong :=
  if_neg (mt (isShort_iff n).mpr h)

namespace Value

mutual

/-- Whether all integers in a value, at any depth, are within the limit. -/
def HasShortIntegers : Value → Prop
  | .integer n => IsShort n
  | .array items => HaveShortIntegers items
  | .table entries => EntriesHaveShortIntegers entries
  | _ => True

/-- `HasShortIntegers` for every item of an array. -/
def HaveShortIntegers : List Value → Prop
  | [] => True
  | v :: rest => HasShortIntegers v ∧ HaveShortIntegers rest

/-- `HasShortIntegers` for the value of every entry of a table. -/
def EntriesHaveShortIntegers : List (String × Value) → Prop
  | [] => True
  | (_, v) :: rest => HasShortIntegers v ∧ EntriesHaveShortIntegers rest

end

mutual

/-- **Every value within the limit can be shown.** -/
theorem inspect_eq_ok : ∀ {v : Value}, v.HasShortIntegers → ∃ text, v.inspect = .ok text
  | .integer n, h => by
    rw [HasShortIntegers] at h
    exact ⟨_, by rw [inspect, integerText_of_isShort h]⟩
  | .array items, h => by
    rw [HasShortIntegers] at h
    obtain ⟨texts, htexts⟩ := inspectItems_eq_ok h
    exact ⟨_, by rw [inspect, htexts]; rfl⟩
  | .table entries, h => by
    rw [HasShortIntegers] at h
    obtain ⟨texts, htexts⟩ := inspectEntries_eq_ok h
    exact ⟨_, by rw [inspect, htexts]; rfl⟩
  | .absent, _ | .boolean _, _ | .float _, _ | .string _, _ | .moment _, _ | .date _, _
  | .time _, _ => ⟨_, by rw [inspect]; rfl⟩

theorem inspectItems_eq_ok : ∀ {items : List Value}, HaveShortIntegers items →
    ∃ texts, inspectItems items = .ok texts
  | [], _ => ⟨[], by rw [inspectItems]; rfl⟩
  | v :: rest, h => by
    rw [HaveShortIntegers] at h
    obtain ⟨text, htext⟩ := inspect_eq_ok h.1
    obtain ⟨texts, htexts⟩ := inspectItems_eq_ok h.2
    exact ⟨text :: texts, by rw [inspectItems, htext, htexts]; rfl⟩

theorem inspectEntries_eq_ok : ∀ {entries : List (String × Value)},
    EntriesHaveShortIntegers entries → ∃ texts, inspectEntries entries = .ok texts
  | [], _ => ⟨[], by rw [inspectEntries]; rfl⟩
  | (key, v) :: rest, h => by
    rw [EntriesHaveShortIntegers] at h
    obtain ⟨text, htext⟩ := inspect_eq_ok h.1
    obtain ⟨texts, htexts⟩ := inspectEntries_eq_ok h.2
    exact ⟨(Text.quoted key ++ ": " ++ text) :: texts, by
      rw [inspectEntries, htext, htexts]; rfl⟩

end

mutual

/-- **No other value can be shown**, and the integer is what is told of it. -/
theorem inspect_eq_error : ∀ {v : Value}, ¬ v.HasShortIntegers →
    v.inspect = .error .integerTooLong
  | .integer n, h => by
    rw [HasShortIntegers] at h
    rw [inspect, integerText_of_not_isShort h]
  | .array items, h => by
    rw [HasShortIntegers] at h
    rw [inspect, inspectItems_eq_error h]
    rfl
  | .table entries, h => by
    rw [HasShortIntegers] at h
    rw [inspect, inspectEntries_eq_error h]
    rfl
  | .absent, h | .boolean _, h | .float _, h | .string _, h | .moment _, h | .date _, h
  | .time _, h => absurd (by simp [HasShortIntegers]) h

theorem inspectItems_eq_error : ∀ {items : List Value}, ¬ HaveShortIntegers items →
    inspectItems items = .error .integerTooLong
  | [], h => absurd (by simp [HaveShortIntegers]) h
  | v :: rest, h => by
    rw [HaveShortIntegers] at h
    by_cases hv : v.HasShortIntegers
    · obtain ⟨text, htext⟩ := inspect_eq_ok hv
      rw [inspectItems, htext, inspectItems_eq_error fun hrest => h ⟨hv, hrest⟩]
      rfl
    · rw [inspectItems, inspect_eq_error hv]
      rfl

theorem inspectEntries_eq_error : ∀ {entries : List (String × Value)},
    ¬ EntriesHaveShortIntegers entries → inspectEntries entries = .error .integerTooLong
  | [], h => absurd (by simp [EntriesHaveShortIntegers]) h
  | (key, v) :: rest, h => by
    rw [EntriesHaveShortIntegers] at h
    by_cases hv : v.HasShortIntegers
    · obtain ⟨text, htext⟩ := inspect_eq_ok hv
      rw [inspectEntries, htext, inspectEntries_eq_error fun hrest => h ⟨hv, hrest⟩]
      rfl
    · rw [inspectEntries, inspect_eq_error hv]
      rfl

end

theorem inspect_eq_ok_iff {v : Value} : (∃ text, v.inspect = .ok text) ↔ v.HasShortIntegers := by
  refine ⟨?_, inspect_eq_ok⟩
  rintro ⟨text, htext⟩
  by_contra hlong
  rw [inspect_eq_error hlong] at htext
  cases htext

end Value

/-- Whether all integers in the fields of a network are within the limit. -/
def Network.HasShortIntegers (n : Network) : Prop := ∀ v ∈ n.values, v.HasShortIntegers

end ProviderBindings
