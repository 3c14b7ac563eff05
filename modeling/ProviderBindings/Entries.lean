/-! # Entries in the order of writing

A list of keys with their values. A key keeps the place at which it was first
written; a later value takes the place of an earlier one. What a list holds is
seen by `List.lookup`. -/
namespace ProviderBindings.Entries

variable {κ α : Type} [BEq κ]

/-- The entries with the value of a key replaced where it stands, or added at the
end. -/
def set (key : κ) (value : α) : List (κ × α) → List (κ × α)
  | [] => [(key, value)]
  | (k, old) :: rest => if k == key then (k, value) :: rest else (k, old) :: set key value rest

variable [LawfulBEq κ]

theorem lookup_cons_of_ne {key k : κ} (h : key ≠ k) (value : α) (entries : List (κ × α)) :
    ((k, value) :: entries).lookup key = entries.lookup key := by
  have hk : (key == k) = false := by simpa using h
  simp [List.lookup_cons, hk]

@[simp] theorem lookup_set_self (key : κ) (value : α) (entries : List (κ × α)) :
    (set key value entries).lookup key = some value := by
  induction entries with
  | nil => simp [set]
  | cons entry rest ih =>
    obtain ⟨k, old⟩ := entry
    by_cases hk : k = key
    · simp [set, hk]
    · rw [set, if_neg (by simpa using hk), lookup_cons_of_ne (Ne.symm hk), ih]

theorem lookup_set_of_ne {key other : κ} (h : other ≠ key) (value : α)
    (entries : List (κ × α)) : (set key value entries).lookup other = entries.lookup other := by
  induction entries with
  | nil => rw [set, lookup_cons_of_ne h]
  | cons entry rest ih =>
    obtain ⟨k, old⟩ := entry
    by_cases hk : k = key
    · rw [set, if_pos (by simpa using hk), lookup_cons_of_ne (hk ▸ h),
        lookup_cons_of_ne (hk ▸ h)]
    · rw [set, if_neg (by simpa using hk)]
      by_cases ho : other = k
      · simp [ho]
      · rw [lookup_cons_of_ne ho, lookup_cons_of_ne ho, ih]

/-- Writing the same entry twice is writing it once. -/
@[simp] theorem set_set_self (key : κ) (value : α) (entries : List (κ × α)) :
    set key value (set key value entries) = set key value entries := by
  induction entries with
  | nil => simp [set]
  | cons entry rest ih =>
    obtain ⟨k, old⟩ := entry
    by_cases hk : k = key <;> simp [set, hk, ih]

theorem mem_of_lookup {key : κ} {value : α} {entries : List (κ × α)}
    (h : entries.lookup key = some value) : (key, value) ∈ entries := by
  obtain ⟨before, after, rfl, -⟩ := List.lookup_eq_some_iff.mp h
  exact List.mem_append_right before List.mem_cons_self

/-- Where no key has two entries, each entry is the one that is found. -/
theorem lookup_of_mem {entries : List (κ × α)} (hkeys : (entries.map (·.1)).Nodup)
    {entry : κ × α} (h : entry ∈ entries) : entries.lookup entry.1 = some entry.2 := by
  induction entries with
  | nil => cases h
  | cons first rest ih =>
    obtain ⟨hfirst, hrest⟩ := List.nodup_cons.mp hkeys
    rcases List.mem_cons.mp h with rfl | h
    · exact List.lookup_cons_self
    · have hne : entry.1 ≠ first.1 := by
        intro heq
        exact hfirst (List.mem_map.mpr ⟨entry, h, heq⟩)
      rw [lookup_cons_of_ne hne, ih hrest h]

theorem eq_or_mem_of_mem_set {key : κ} {value : α} {entries : List (κ × α)} {entry : κ × α}
    (h : entry ∈ set key value entries) : entry = (key, value) ∨ entry ∈ entries := by
  induction entries with
  | nil => exact .inl (List.mem_singleton.mp h)
  | cons first rest ih =>
    obtain ⟨k, old⟩ := first
    by_cases hk : k = key
    · subst hk
      rw [set, if_pos BEq.rfl] at h
      exact (List.mem_cons.mp h).imp_right (List.mem_cons_of_mem _)
    · rw [set, if_neg (by simpa using hk)] at h
      rcases List.mem_cons.mp h with rfl | h
      · exact .inr List.mem_cons_self
      · exact (ih h).imp_right (List.mem_cons_of_mem _)

/-- Writing an entry gives no key a second one. -/
theorem nodup_keys_set (key : κ) (value : α) {entries : List (κ × α)}
    (h : (entries.map (·.1)).Nodup) : ((set key value entries).map (·.1)).Nodup := by
  induction entries with
  | nil => simp [set]
  | cons first rest ih =>
    obtain ⟨k, old⟩ := first
    obtain ⟨hfirst, hrest⟩ := List.nodup_cons.mp h
    by_cases hk : k = key
    · rw [set, if_pos (by simpa using hk)]
      exact List.nodup_cons.mpr ⟨hfirst, hrest⟩
    · rw [set, if_neg (by simpa using hk)]
      refine List.nodup_cons.mpr ⟨?_, ih hrest⟩
      intro hmem
      obtain ⟨entry, hentry, hkey⟩ := List.mem_map.mp hmem
      rcases eq_or_mem_of_mem_set hentry with rfl | hentry
      · exact hk hkey.symm
      · exact hfirst (List.mem_map.mpr ⟨entry, hentry, hkey⟩)

end ProviderBindings.Entries
