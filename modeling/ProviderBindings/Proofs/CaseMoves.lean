import ProviderBindings.Entries
import ProviderBindings.Text.LetterCase

/-! # What the case mappings move

A case mapping is given by its tables, as expansions and runs.  Here the tables are read
as sets: the code points that a mapping changes (`changed`) and those that it makes of
them (`made`).  Upper case changes nothing that it makes, so it leaves alone whatever
stands in a text in upper case (`inUpper_of_mem_upper`), and to take it twice is to take
it once (`upper_upper`).

Each table moves some fourteen hundred code points.  Their sets are compared as numbers,
bit by bit (`marks`), so that a fact about whole tables is one equation between closed
numbers.
-/
namespace ProviderBindings.Text

namespace CaseTable

/-! ## Sets of code points -/

/-- A set of code points, as the bits of a number. -/
def marks (codes : List Nat) : Nat := codes.foldr (fun n bits => bits ||| 1 <<< n) 0

theorem testBit_marks (codes : List Nat) (n : Nat) :
    (marks codes).testBit n = decide (n ∈ codes) := by
  induction codes with
  | nil => simp [marks]
  | cons m rest ih =>
    have hmarks : marks (m :: rest) = marks rest ||| 1 <<< m := rfl
    rw [hmarks, Nat.testBit_or, ih, Nat.one_shiftLeft, Nat.testBit_two_pow]
    by_cases h : m = n
    · simp [h]
    · simp [h, Ne.symm h]

theorem not_mem_of_marks {xs ys : List Nat} (h : marks xs &&& marks ys = 0) {n : Nat}
    (hn : n ∈ xs) : n ∉ ys := by
  have hbit : (marks xs &&& marks ys).testBit n = false := by rw [h, Nat.zero_testBit]
  rw [Nat.testBit_and, testBit_marks, testBit_marks] at hbit
  simpa [hn] using hbit

theorem mem_of_marks {xs ys : List Nat} (h : marks xs ||| marks ys = marks ys) {n : Nat}
    (hn : n ∈ xs) : n ∈ ys := by
  have hbit : (marks xs ||| marks ys).testBit n = (marks ys).testBit n := by rw [h]
  rw [Nat.testBit_or, testBit_marks, testBit_marks] at hbit
  simpa [hn] using hbit

/-- Whether code points differ from each other and from those marked in `seen`. -/
def areFresh (seen : Nat) : List Nat → Bool
  | [] => true
  | n :: rest => !seen.testBit n && areFresh (seen ||| 1 <<< n) rest

theorem nodup_of_areFresh {seen : Nat} {codes : List Nat} (h : areFresh seen codes = true) :
    codes.Nodup ∧ ∀ n ∈ codes, seen.testBit n = false := by
  induction codes generalizing seen with
  | nil => simp
  | cons m rest ih =>
    rw [areFresh, Bool.and_eq_true, Bool.not_eq_true'] at h
    obtain ⟨hm, hrest⟩ := h
    obtain ⟨hnodup, hfresh⟩ := ih hrest
    simp only [Nat.testBit_or, Bool.or_eq_false_iff, Nat.one_shiftLeft, Nat.testBit_two_pow,
      decide_eq_false_iff_not] at hfresh
    refine ⟨List.nodup_cons.mpr ⟨fun hmem => (hfresh m hmem).2 rfl, hnodup⟩, ?_⟩
    intro n hn
    rcases List.mem_cons.mp hn with rfl | hn
    · exact hm
    · exact (hfresh n hn).1

/-! ## Moves -/

/-- The code points that a run maps. -/
def Run.points (r : Run) : List Nat :=
  (List.range' r.first ((r.last - r.first) / r.stride + 1) r.stride).filter r.maps

theorem Run.mem_points_iff {r : Run} {n : Nat} : n ∈ r.points ↔ r.maps n = true := by
  refine List.mem_filter.trans (and_iff_right_of_imp ?_)
  intro h
  simp only [Run.maps, Bool.and_eq_true, decide_eq_true_eq, beq_iff_eq] at h
  obtain ⟨⟨hfirst, hlast⟩, hmod⟩ := h
  refine List.mem_range'.mpr ⟨(n - r.first) / r.stride, ?_, ?_⟩
  · exact Nat.lt_succ_of_le (Nat.div_le_div_right (Nat.sub_le_sub_right hlast _))
  · rw [Nat.mul_div_cancel' (Nat.dvd_of_mod_eq_zero hmod)]
    omega

/-- The code points that a run maps, each with its image. -/
def Run.moves (r : Run) : List (Nat × Nat) :=
  r.points.map fun n => (n, ((n : Int) + r.shift).toNat)

/-- The code points that a list of runs maps, each with its image. -/
def moves (runs : List Run) : List (Nat × Nat) := runs.flatMap Run.moves

/-- The code points that a mapping changes. -/
def changed (expansions : List (Nat × List Nat)) (runs : List Run) : List Nat :=
  expansions.map (·.1) ++ (moves runs).map (·.1)

/-- The code points that a mapping makes of those that it changes. -/
def made (expansions : List (Nat × List Nat)) (runs : List Run) : List Nat :=
  expansions.flatMap (·.2) ++ (moves runs).map (·.2)

theorem mem_moves {runs : List Run} {r : Run} (hr : r ∈ runs) {n : Nat} (hn : r.maps n = true) :
    (n, ((n : Int) + r.shift).toNat) ∈ moves runs :=
  List.mem_flatMap.mpr ⟨r, hr, List.mem_map_of_mem (Run.mem_points_iff.mpr hn)⟩

theorem mem_moves_of_image? {runs : List Run} {n m : Nat} (h : image? runs n = some m) :
    (n, m) ∈ moves runs := by
  obtain ⟨r, hr, rfl⟩ := Option.map_eq_some_iff.mp h
  have hmaps : r.maps n = true := List.find?_some (p := fun r : Run => r.maps n) hr
  exact mem_moves (List.mem_of_find?_eq_some hr) hmaps

theorem not_mem_moves_of_image? {runs : List Run} {n : Nat} (h : image? runs n = none) :
    n ∉ (moves runs).map (·.1) := by
  rw [image?, Option.map_eq_none_iff, List.find?_eq_none] at h
  intro hn
  obtain ⟨⟨n, m⟩, hmove, rfl⟩ := List.mem_map.mp hn
  obtain ⟨r, hr, hmove⟩ := List.mem_flatMap.mp hmove
  obtain ⟨k, hk, hpair⟩ := List.mem_map.mp hmove
  cases hpair
  exact h r hr (Run.mem_points_iff.mp hk)

end CaseTable

open CaseTable

/-- A mapping leaves a character alone or makes others of it. -/
theorem mapChar_cases (expansions : List (Nat × List Nat)) (runs : List Run) (c : Char) :
    (c.toNat ∉ changed expansions runs ∧ mapChar expansions runs c = [c]) ∨
      ∃ codes : List Nat, mapChar expansions runs c = codes.map Char.ofNat ∧
        ∀ n ∈ codes, n ∈ made expansions runs := by
  unfold mapChar
  cases hlookup : expansions.lookup c.toNat with
  | some codes =>
    refine .inr ⟨codes, rfl, fun n hn => List.mem_append_left _ ?_⟩
    exact List.mem_flatMap.mpr ⟨(c.toNat, codes), Entries.mem_of_lookup hlookup, hn⟩
  | none =>
    cases himage : image? runs c.toNat with
    | some code =>
      refine .inr ⟨[code], rfl, fun n hn => List.mem_append_right _ ?_⟩
      rw [List.mem_singleton.mp hn]
      exact List.mem_map_of_mem (mem_moves_of_image? himage)
    | none =>
      refine .inl ⟨?_, rfl⟩
      rw [changed, List.mem_append, not_or]
      refine ⟨?_, not_mem_moves_of_image? himage⟩
      intro hmem
      obtain ⟨e, he, heq⟩ := List.mem_map.mp hmem
      simpa [heq] using List.lookup_eq_none_iff.mp hlookup e he

theorem mapChar_of_not_mem {expansions : List (Nat × List Nat)} {runs : List Run} {c : Char}
    (h : c.toNat ∉ changed expansions runs) : mapChar expansions runs c = [c] := by
  rw [changed, List.mem_append, not_or] at h
  have hlookup : expansions.lookup c.toNat = none := by
    rw [List.lookup_eq_none_iff]
    intro e he
    rw [bne_iff_ne]
    intro heq
    exact h.1 (heq ▸ List.mem_map_of_mem he)
  have himage : image? runs c.toNat = none := by
    cases himage : image? runs c.toNat with
    | none => rfl
    | some m => exact absurd (List.mem_map_of_mem (mem_moves_of_image? himage)) h.2
  simp [mapChar, hlookup, himage]

/-! ## Upper case -/

/-- The code points that upper case changes. -/
abbrev upperChanged : List Nat := changed upperExpansions upperRuns

/-- The code points that upper case makes. -/
abbrev upperMade : List Nat := made upperExpansions upperRuns

/-- What upper case makes, it does not change. -/
theorem marks_upperMade : marks upperMade &&& marks upperChanged = 0 := by
  decide +kernel

theorem isValidChar_upperMade : upperMade.all (fun n => decide n.isValidChar) = true := by
  decide +kernel

/-- Whether upper case leaves a character alone. -/
def InUpper (c : Char) : Prop := c.toNat ∉ upperChanged

theorem upperChar_of_inUpper {c : Char} (h : InUpper c) : upperChar c = [c] :=
  mapChar_of_not_mem h

theorem toNat_ofNat {n : Nat} (h : n.isValidChar) : (Char.ofNat n).toNat = n := by
  rw [Char.ofNat, dif_pos h]
  rfl

theorem mem_upperMade_of_mem_upperChar {c d : Char} (h : d ∈ upperChar c) :
    d = c ∧ InUpper c ∨ d.toNat ∈ upperMade := by
  rcases mapChar_cases upperExpansions upperRuns c with ⟨hc, hmap⟩ | ⟨codes, hmap, hmade⟩
  · rw [upperChar, hmap] at h
    exact .inl ⟨List.mem_singleton.mp h, hc⟩
  · rw [upperChar, hmap] at h
    obtain ⟨n, hn, rfl⟩ := List.mem_map.mp h
    have hvalid : n.isValidChar := by
      simpa using List.all_eq_true.mp isValidChar_upperMade n (hmade n hn)
    exact .inr ((toNat_ofNat hvalid).symm ▸ hmade n hn)

theorem inUpper_of_mem_upperChar {c d : Char} (h : d ∈ upperChar c) : InUpper d := by
  rcases mem_upperMade_of_mem_upperChar h with ⟨rfl, hc⟩ | hmade
  · exact hc
  · exact not_mem_of_marks marks_upperMade hmade

/-- What stands in a text in upper case is left alone by upper case. -/
theorem inUpper_of_mem_upper {text : List Char} {d : Char} (h : d ∈ upper text) : InUpper d := by
  obtain ⟨c, -, hd⟩ := List.mem_flatMap.mp h
  exact inUpper_of_mem_upperChar hd

theorem upper_of_inUpper {text : List Char} (h : ∀ c ∈ text, InUpper c) : upper text = text := by
  induction text with
  | nil => rfl
  | cons c rest ih =>
    rw [upper, List.flatMap_cons, upperChar_of_inUpper (h c List.mem_cons_self), ← upper,
      ih fun d hd => h d (List.mem_cons_of_mem c hd)]
    rfl

/-- **Upper case is taken once and for all.** -/
theorem upper_upper (text : List Char) : upper (upper text) = upper text :=
  upper_of_inUpper fun _ hd => inUpper_of_mem_upper hd

end ProviderBindings.Text
