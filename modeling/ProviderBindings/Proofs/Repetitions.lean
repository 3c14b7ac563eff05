import ProviderBindings.Proofs.Acceptance

/-! # Which repetitions are reported

The walk across networks knows a provider from the first network that derives it on
(`lookup_repeatedName_eq_none_iff`).  So every later network that derives it is reported
(`exists_duplicateName`), whatever stands between the two.
-/
namespace ProviderBindings.Check

/-- After a network, a provider has not been met if it had not been met before and the network
does not derive it. -/
theorem lookup_repeatedName_eq_none_iff (seen : List (String × Nat × String)) (n : Network)
    (index : Nat) (key : String) : (repeatedName seen n index).2.lookup key = none ↔
      seen.lookup key = none ∧ n.provider? ≠ some key := by
  cases hprovider : n.provider? with
  | none => simp [repeatedName_of_none n index seen hprovider]
  | some provider =>
    by_cases hkey : key = provider
    · subst hkey
      rcases repeatedName_of_some n index seen hprovider with
        ⟨first, message, hseen, hrepeated⟩ | ⟨hseen, hrepeated⟩
      · simp [hrepeated, hseen]
      · simp [hrepeated, hseen]
    · rcases repeatedName_of_some n index seen hprovider with
        ⟨first, message, hseen, hrepeated⟩ | ⟨hseen, hrepeated⟩
      · simp [hrepeated, Ne.symm hkey]
      · simp [hrepeated, Entries.lookup_cons_of_ne hkey, Ne.symm hkey]

/-- A network is reported if its provider has been met before the walk or on it. -/
theorem exists_duplicateName (seen : Seen) (index : Nat) {networks : List Network} {j : Nat}
    {n : Network} {key : String} (hn : networks[j]? = some n) (hkey : n.provider? = some key)
    (hmet : seen.names.lookup key ≠ none ∨
      ∃ i < j, ∃ m, networks[i]? = some m ∧ m.provider? = some key) :
    ∃ message, n.violation (index + j) .error Code.duplicateName .name message ∈
      repetitionsFrom seen index networks := by
  induction networks generalizing seen index j with
  | nil => simp at hn
  | cons k rest ih =>
    cases j with
    | zero =>
      cases hn
      have hseen : seen.names.lookup key ≠ none := by
        rcases hmet with hseen | ⟨i, hi, -⟩
        · exact hseen
        · exact absurd hi (Nat.not_lt_zero i)
      rcases repeatedName_of_some n index seen.names hkey with
        ⟨first, message, -, hrepeated⟩ | ⟨hnone, -⟩
      · exact ⟨message, by simp [repetitionsFrom, hrepeated]⟩
      · exact absurd hnone hseen
    | succ j =>
      -- what has been met at the head has been met for the rest
      have hmet' : (repeatedName seen.names k index).2.lookup key ≠ none ∨
          ∃ i < j, ∃ m, rest[i]? = some m ∧ m.provider? = some key := by
        rw [ne_eq, lookup_repeatedName_eq_none_iff, not_and_or, not_not]
        rcases hmet with hseen | ⟨_ | i, hi, m, hm, hprovider⟩
        · exact .inl (.inl hseen)
        · cases hm
          exact .inl (.inr hprovider)
        · exact .inr ⟨i, Nat.lt_of_succ_lt_succ hi, m, hm, hprovider⟩
      obtain ⟨message, hmem⟩ := ih ⟨_, _⟩ (index + 1) hn hmet'
      rw [Nat.add_right_comm] at hmem
      exact ⟨message, List.mem_append_right _ hmem⟩

end ProviderBindings.Check
