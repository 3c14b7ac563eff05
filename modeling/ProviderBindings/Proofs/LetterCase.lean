import ProviderBindings.Text.LetterCase

/-! # Letter case of ASCII text

The case mappings are tables over all code points.  On ASCII they come down to one run
each, `a`–`z` to capitals and `A`–`Z` to small letters: every expansion and every other
run begins above it.  So the case of an ASCII text is taken character by character
(`upper_of_ascii`, `lower_of_ascii`), and the rule for a capital sigma never applies.
-/
namespace ProviderBindings.Text
open CaseTable

/-- Whether a character belongs to ASCII. -/
def isAscii (c : Char) : Bool := decide (c.toNat < 128)

/-- A property that can be decided holds of all ASCII characters once it has been
checked at each of them. -/
theorem forall_ascii {P : Char → Prop} (h : ∀ n : Fin 128, P (Char.ofNat n)) {c : Char}
    (hc : isAscii c = true) : P c := by
  have hlt : c.toNat < 128 := by simpa [isAscii] using hc
  simpa using h ⟨c.toNat, hlt⟩

/-! ## The tables on ASCII -/

theorem lookup_eq_none_of_keys {α : Type} {entries : List (Nat × α)} {n : Nat}
    (h : ∀ e ∈ entries, n < e.1) : entries.lookup n = none := by
  rw [List.lookup_eq_none_iff]
  intro e he
  have hlt := h e he
  simp only [bne_iff_ne]
  omega

/-- A code point below all runs but the first is mapped by that one or not at all. -/
theorem image?_cons_of_below {run : Run} {runs : List Run} {n : Nat}
    (h : ∀ r ∈ runs, n < r.first) :
    image? (run :: runs) n = if run.maps n then some ((n : Int) + run.shift).toNat else none := by
  have hnone : runs.find? (·.maps n) = none := by
    rw [List.find?_eq_none]
    intro r hr
    have hlt := h r hr
    simp only [Run.maps, Bool.and_eq_true, decide_eq_true_eq]
    omega
  unfold image?
  rw [List.find?_cons, hnone]
  cases run.maps n <;> rfl

/-- A table that reaches below 128 by its first run alone maps an ASCII character by
that run. -/
theorem mapChar_of_ascii (expansions : List (Nat × List Nat)) (run : Run) (runs : List Run)
    (hexp : expansions.all (fun e => decide (128 ≤ e.1)) = true)
    (hruns : runs.all (fun r => decide (128 ≤ r.first)) = true) {c : Char}
    (hc : isAscii c = true) :
    mapChar expansions (run :: runs) c =
      [if run.maps c.toNat then Char.ofNat ((c.toNat : Int) + run.shift).toNat else c] := by
  have hlt : c.toNat < 128 := by simpa [isAscii] using hc
  have hkeys : ∀ e ∈ expansions, c.toNat < e.1 := by
    intro e he
    have hle : 128 ≤ e.1 := by simpa using List.all_eq_true.mp hexp e he
    omega
  have hfirst : ∀ r ∈ runs, c.toNat < r.first := by
    intro r hr
    have hle : 128 ≤ r.first := by simpa using List.all_eq_true.mp hruns r hr
    omega
  unfold mapChar
  rw [lookup_eq_none_of_keys hkeys, image?_cons_of_below hfirst]
  by_cases hrun : run.maps c.toNat = true <;> simp [hrun]

theorem upperChar_of_ascii {c : Char} (hc : isAscii c = true) : upperChar c = [c.toUpper] := by
  have hmap := mapChar_of_ascii upperExpansions ⟨0x61, 0x7A, 1, -32⟩ upperRuns.tail
    (by decide +kernel) (by decide +kernel) hc
  rw [upperChar, show upperRuns = ⟨0x61, 0x7A, 1, -32⟩ :: upperRuns.tail from rfl, hmap]
  exact congrArg ([·]) (forall_ascii (P := fun c => (if Run.maps ⟨0x61, 0x7A, 1, -32⟩ c.toNat then
    Char.ofNat ((c.toNat : Int) + -32).toNat else c) = c.toUpper) (by decide +kernel) hc)

theorem lowerChar_of_ascii {c : Char} (hc : isAscii c = true) : lowerChar c = [c.toLower] := by
  have hmap := mapChar_of_ascii lowerExpansions ⟨0x41, 0x5A, 1, 32⟩ lowerRuns.tail
    (by decide +kernel) (by decide +kernel) hc
  rw [lowerChar, show lowerRuns = ⟨0x41, 0x5A, 1, 32⟩ :: lowerRuns.tail from rfl, hmap]
  exact congrArg ([·]) (forall_ascii (P := fun c => (if Run.maps ⟨0x41, 0x5A, 1, 32⟩ c.toNat then
    Char.ofNat ((c.toNat : Int) + 32).toNat else c) = c.toLower) (by decide +kernel) hc)

/-! ## Texts -/

theorem upper_of_ascii {text : List Char} (h : ∀ c ∈ text, isAscii c = true) :
    upper text = text.map Char.toUpper := by
  induction text with
  | nil => rfl
  | cons c rest ih =>
    have hrest : ∀ d ∈ rest, isAscii d = true := fun d hd => h d (List.mem_cons_of_mem c hd)
    have hc := upperChar_of_ascii (h c List.mem_cons_self)
    simp only [upper, List.flatMap_cons, hc] at ih ⊢
    rw [ih hrest]
    rfl

/-- The state of the rule for a capital sigma makes no difference on ASCII. -/
theorem lowerAfter_of_ascii {text : List Char} (h : ∀ c ∈ text, isAscii c = true)
    (afterCased : Bool) : lowerAfter afterCased text = text.map Char.toLower := by
  induction text generalizing afterCased with
  | nil => rfl
  | cons c rest ih =>
    have hrest : ∀ d ∈ rest, isAscii d = true := fun d hd => h d (List.mem_cons_of_mem c hd)
    have hc := h c List.mem_cons_self
    have hsigma : c ≠ 'Σ' := by rintro rfl; exact absurd hc (by decide)
    simp only [lowerAfter, hsigma, false_and, if_false, lowerChar_of_ascii hc, ih hrest]
    rfl

theorem lower_of_ascii {text : List Char} (h : ∀ c ∈ text, isAscii c = true) :
    lower text = text.map Char.toLower :=
  lowerAfter_of_ascii h false

end ProviderBindings.Text
