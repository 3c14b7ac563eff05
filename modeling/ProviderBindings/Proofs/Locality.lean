import ProviderBindings.Proofs.ManifestOrder
import ProviderBindings.Proofs.RepetitionPairs

/-! # Networks that come later

What is found at a network depends on it and on the networks before it.  So what is found in
the fields of a manifest goes with its parts (`fields_append`), and networks that are appended
to a manifest leave all that was found at the others as it was (`append_keeps_findings`): the
walk across networks reports what it reported before, and then only at positions from the first
appended network on (`repetitions_append`).

Networks that are left out leave a valid manifest valid.  That is no matter of positions, which
change then, and with them the networks that come first with their keys: it follows from what a
valid manifest is (`Acceptable.sublist`).
-/
namespace ProviderBindings

/-- The violation as many positions further on. -/
def Violation.shiftedBy (v : Violation) (count : Nat) : Violation := v.movedTo (v.index + count)

/-- The checks of a single network find the same further on. -/
theorem Network.findingsOnFields_add (n : Network) (index count : Nat) :
    n.findingsOnFields (index + count) =
      (n.findingsOnFields index).map fun found => found.map (·.shiftedBy count) := by
  rw [n.findingsOnFields_movedTo index (index + count)]
  cases hfound : n.findingsOnFields index with
  | error fault => rfl
  | ok found =>
    have hmoved : found.map (·.movedTo (index + count : Nat)) = found.map (·.shiftedBy count) := by
      apply List.map_congr_left
      intro v hv
      rw [Violation.shiftedBy, Check.index_of_mem_findingsOnFields hfound hv, Int.natCast_add]
    exact congrArg Except.ok hmoved

namespace Check

variable {xs ys networks : List Network} {found others : Findings}

/-! ## Fields -/

theorem fieldsFrom_add (index count : Nat) (networks : List Network) :
    fieldsFrom (index + count) networks =
      (fieldsFrom index networks).map fun found => found.map (·.shiftedBy count) := by
  induction networks generalizing index with
  | nil => rfl
  | cons n rest ih =>
    have hrest := ih (index + 1)
    rw [Nat.add_right_comm] at hrest
    rw [fieldsFrom, fieldsFrom, n.findingsOnFields_add, hrest]
    cases n.findingsOnFields index <;> cases fieldsFrom (index + 1) rest <;>
      simp [Except.map, bind, Except.bind, pure, Except.pure]

/-- What is found in the fields of two parts of a manifest is found in those of the whole. -/
theorem fields_append (hxs : fields xs = .ok found) (hys : fields ys = .ok others) :
    fields (xs ++ ys) = .ok (found ++ others.map (·.shiftedBy xs.length)) := by
  have hlater : fieldsFrom (0 + xs.length) ys = .ok (others.map (·.shiftedBy xs.length)) := by
    rw [fieldsFrom_add, show fieldsFrom 0 ys = .ok others from hys]
    rfl
  rw [fields, fieldsFrom_append, show fieldsFrom 0 xs = .ok found from hxs, hlater]
  rfl

/-! ## Repetitions -/

theorem index_of_mem_repetitionsAt {i : Nat} {v : Violation} (h : v ∈ repetitionsAt networks i) :
    v.index = i := by
  rcases List.mem_append.mp h with h | h
  · obtain ⟨n, key, m, j, -, -, -, -, rfl⟩ :=
      byName.repetition?_eq_some_iff.mp (Option.mem_toList.mp h)
    rfl
  · obtain ⟨n, key, m, j, -, -, -, -, rfl⟩ :=
      byUrl.repetition?_eq_some_iff.mp (Option.mem_toList.mp h)
    rfl

/-- A comparison with the networks before a position does not see those after it. -/
theorem repetitionsAt_append {i : Nat} (hi : i < xs.length) (ys : List Network) :
    repetitionsAt (xs ++ ys) i = repetitionsAt xs i := by
  unfold repetitionsAt Comparison.repetition?
  rw [List.getElem?_append_left hi, List.take_append_of_le_length (Nat.le_of_lt hi)]

/-- Networks that are appended are reported after all others, at positions of their own. -/
theorem repetitions_append (xs ys : List Network) :
    ∃ later, repetitions (xs ++ ys) = repetitions xs ++ later ∧
      ∀ v ∈ later, (xs.length : Int) ≤ v.index := by
  refine ⟨(List.range ys.length).flatMap fun i => repetitionsAt (xs ++ ys) (xs.length + i), ?_, ?_⟩
  · have hearlier : (List.range xs.length).flatMap (repetitionsAt (xs ++ ys)) =
        (List.range xs.length).flatMap (repetitionsAt xs) :=
      List.flatMap_congr fun i hi => repetitionsAt_append (List.mem_range.mp hi) ys
    rw [repetitions_eq, repetitions_eq, List.length_append, List.range_add, List.flatMap_append,
      hearlier, List.flatMap_map]
  · intro v hv
    obtain ⟨i, -, hv⟩ := List.mem_flatMap.mp hv
    rw [index_of_mem_repetitionsAt hv]
    omega

/-! ## All checks -/

theorem length_le_index_of_mem_shiftedBy (h : fields ys = .ok others) {v : Violation}
    (hv : v ∈ others.map (·.shiftedBy xs.length)) : (xs.length : Int) ≤ v.index := by
  obtain ⟨w, hw, rfl⟩ := List.mem_map.mp hv
  obtain ⟨i, n, code, field, message, -, rfl⟩ := of_mem_fieldsFrom h hw
  simp only [Violation.shiftedBy, Violation.movedTo, Network.violation]
  omega

theorem Acceptable.sublist (h : Acceptable xs) {zs : List Network} (hzs : zs.Sublist xs) :
    Acceptable zs where
  fields n hn := h.fields n (hzs.mem hn)
  distinct := h.distinct.sublist (hzs.map _)

/-- A valid manifest stays valid when networks are left out. -/
theorem exists_valid_of_sublist (hxs : Check.all xs = .ok found) (hvalid : found.isValid = true)
    {zs : List Network} (hzs : zs.Sublist xs) :
    ∃ kept, Check.all zs = .ok kept ∧ kept.isValid = true := by
  obtain ⟨kept, hkept⟩ := all_eq_ok fun n hn => isCheckable_of_all hxs n (hzs.mem hn)
  refine ⟨kept, hkept, (isValid_iff_acceptable hkept).mpr ?_⟩
  exact ((isValid_iff_acceptable hxs).mp hvalid).sublist hzs

/-- **What is found at a network does not depend on those after it.**  Of two parts that can be
checked, the fields of the whole give what those of the first give, and then what those of the
second give, with all positions further on by the length of the first and nothing else changed.
At every position below that length, the checks of the whole find what the checks of the first
part alone find.  And if the first part is valid, so is every part of it that is left when
networks are taken out. -/
theorem append_keeps_findings (hxs : fields xs = .ok found) (hys : fields ys = .ok others) :
    fields (xs ++ ys) = .ok (found ++ others.map (·.shiftedBy xs.length)) ∧
      ∃ before after, Check.all xs = .ok before ∧ Check.all (xs ++ ys) = .ok after ∧
        (∀ i : Int, i < xs.length → after.ofNetwork i = before.ofNetwork i) ∧
        (before.isValid = true → ∀ zs : List Network, zs.Sublist xs →
          ∃ kept, Check.all zs = .ok kept ∧ kept.isValid = true) := by
  have happend := fields_append hxs hys
  have hall := all_eq_ok_iff.mpr ⟨_, hxs, rfl⟩
  refine ⟨happend, _, _, hall, all_eq_ok_iff.mpr ⟨_, happend, rfl⟩, ?_, ?_⟩
  · intro i hi
    obtain ⟨later, hlater, hpositions⟩ := repetitions_append xs ys
    have hfields : Findings.ofNetwork (others.map (·.shiftedBy xs.length)) i = [] := by
      apply Findings.ofNetwork_eq_nil
      intro v hv
      have := length_le_index_of_mem_shiftedBy hys hv
      omega
    have hrepetitions : Findings.ofNetwork later i = [] := by
      apply Findings.ofNetwork_eq_nil
      intro v hv
      have := hpositions v hv
      omega
    rw [hlater, Findings.ofNetwork_append, Findings.ofNetwork_append, Findings.ofNetwork_append,
      Findings.ofNetwork_append, hfields, hrepetitions, List.append_nil, List.append_nil]
  · intro hvalid zs hzs
    exact exists_valid_of_sublist hall hvalid hzs

/-- Two networks with one address. -/
def sharedUrlPair : List Network :=
  [⟨.string "Base", .string "£", .absent⟩, ⟨.string "Arbitrum", .string "£", .integer 5⟩]

/-- Two networks that repeat others in name and address, one of them with fields that are not as
they should be. -/
def repeatingPair : List Network :=
  [⟨.string "ARBITRUM", .string "£", .integer 0⟩, ⟨.string "base", .array [], .absent⟩]

/-- What is found in the fields of the second pair. -/
def repeatingPairFindings : Findings :=
  [⟨.error, Code.invalidComputeUnits, "Must be a positive integer, got 0", 0, "ARBITRUM",
      "compute_units_per_second"⟩,
    ⟨.error, Code.invalidUrl, "Url must be a string, got []", 1, "base", "url"⟩]

theorem repeatingPair_appended : fields sharedUrlPair = .ok [] ∧
    fields repeatingPair = .ok repeatingPairFindings ∧
    fields (sharedUrlPair ++ repeatingPair) = .ok (repeatingPairFindings.map (·.shiftedBy 2)) ∧
    ∃ before after, Check.all sharedUrlPair = .ok before ∧
      Check.all (sharedUrlPair ++ repeatingPair) = .ok after ∧
      after.ofNetwork 1 = before.ofNetwork 1 ∧ before.isValid = true ∧
      ∃ kept, Check.all sharedUrlPair.tail = .ok kept ∧ kept.isValid = true := by
  have hfirst : fields sharedUrlPair = .ok [] := Attempt.eq_ok_of_toOption (by decide +kernel)
  have hsecond : fields repeatingPair = .ok repeatingPairFindings :=
    Attempt.eq_ok_of_toOption (by decide +kernel)
  obtain ⟨hfields, before, after, hbefore, hafter, hkeeps, hsublists⟩ :=
    append_keeps_findings hfirst hsecond
  have hvalid : before.isValid = true := by
    -- a repeated address is all that is found in the first list
    obtain rfl := Except.ok.inj (hbefore.symm.trans (all_eq_ok_iff.mpr ⟨_, hfirst, rfl⟩))
    decide +kernel
  exact ⟨hfirst, hsecond, hfields, before, after, hbefore, hafter, hkeeps 1 (by decide), hvalid,
    hsublists hvalid _ (List.tail_sublist sharedUrlPair)⟩

end Check

end ProviderBindings
