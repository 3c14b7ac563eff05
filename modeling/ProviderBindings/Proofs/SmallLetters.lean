import Mathlib.Data.List.Forall2
import Mathlib.Data.List.Nodup
import ProviderBindings.Proofs.CaseMoves

/-! # What small letters keep of a text in upper case

Of a text in upper case, lower case keeps everything but this: five characters have a twin
among the texts in upper case, with the same small form (`twins`).  The Kelvin sign is one,
whose small form is that of `K`.  Two texts in upper case have one lower case exactly when
they agree once each of the five is replaced by its twin (`lower_eq_lower_iff`).

Without the five, a text and its lower case correspond character by character
(`IsSmallForm`), and a small form belongs to one capital only.  The rule for a capital sigma
does no harm: both of its small forms are its own.
-/
namespace ProviderBindings.Text
open CaseTable

/-! ## Twins -/

/-- The characters that lower case confuses with other texts in upper case, and these texts:
`İ`, the second capital theta, and the signs for ohm, kelvin and ångström. -/
def twins : List (Char × List Char) :=
  [('\u0130', ['I', '\u0307']), ('\u03F4', ['\u0398']), ('\u2126', ['\u03A9']), ('\u212A', ['K']),
   ('\u212B', ['\u00C5'])]

/-- Whether a character has a twin. -/
def HasTwin (c : Char) : Prop := c ∈ twins.map (·.1)

instance (c : Char) : Decidable (HasTwin c) :=
  inferInstanceAs (Decidable (c ∈ twins.map (·.1)))

/-- A text is searched for characters with a twin. -/
theorem not_hasTwin_of_all {text : List Char} (h : (text.all fun c => decide (¬ HasTwin c)) = true) :
    ∀ c ∈ text, ¬ HasTwin c :=
  fun c hc => of_decide_eq_true (List.all_eq_true.mp h c hc)

/-- A character's twin, or itself if it has none. -/
def plainChar (c : Char) : List Char := (twins.lookup c).getD [c]

/-- A text with every character replaced by its twin. -/
def plain (text : List Char) : List Char := text.flatMap plainChar

theorem plainChar_of_not_hasTwin {c : Char} (h : ¬ HasTwin c) : plainChar c = [c] := by
  have hlookup : twins.lookup c = none := by
    rw [List.lookup_eq_none_iff]
    intro e he
    rw [bne_iff_ne]
    intro heq
    exact h (heq ▸ List.mem_map_of_mem he)
  rw [plainChar, hlookup]
  rfl

theorem mem_twins_of_hasTwin {c : Char} (h : HasTwin c) : (c, plainChar c) ∈ twins := by
  unfold plainChar
  cases hlookup : twins.lookup c with
  | some text => exact Entries.mem_of_lookup hlookup
  | none =>
    obtain ⟨e, he, heq⟩ := List.mem_map.mp h
    simpa [heq] using List.lookup_eq_none_iff.mp hlookup e he

theorem plain_of_not_hasTwin {text : List Char} (h : ∀ c ∈ text, ¬ HasTwin c) :
    plain text = text := by
  induction text with
  | nil => rfl
  | cons c rest ih =>
    rw [plain, List.flatMap_cons, plainChar_of_not_hasTwin (h c List.mem_cons_self), ← plain,
      ih fun d hd => h d (List.mem_cons_of_mem c hd)]
    rfl

/-- Whether the last character that is not passed over is cased, after one more. -/
def casedAfter (afterCased : Bool) (c : Char) : Bool :=
  if isCaseIgnorable c then afterCased else isCased c

/-- A twin has the small form of its character and the same effect on a capital sigma before
or after it. -/
theorem twins_alike : ∀ e ∈ twins, e.1 ≠ 'Σ' ∧ 'Σ' ∉ e.2 ∧ e.2.flatMap lowerChar = lowerChar e.1 ∧
    ∀ b, e.2.foldl casedAfter b = casedAfter b e.1 ∧
      e.2.foldr (fun c b => casedAfter b c) b = casedAfter b e.1 := by
  decide +kernel

theorem lowerAfter_append {text : List Char} (h : 'Σ' ∉ text) (afterCased : Bool)
    (rest : List Char) : lowerAfter afterCased (text ++ rest) =
      text.flatMap lowerChar ++ lowerAfter (text.foldl casedAfter afterCased) rest := by
  induction text generalizing afterCased with
  | nil => rfl
  | cons c more ih =>
    rw [List.mem_cons, not_or] at h
    rw [List.cons_append, lowerAfter, ih h.2]
    simp [Ne.symm h.1, casedAfter]

theorem startsCased_append (text rest : List Char) : startsCased (text ++ rest) =
    text.foldr (fun c b => casedAfter b c) (startsCased rest) := by
  induction text with
  | nil => rfl
  | cons c more ih => rw [List.cons_append, startsCased, ih]; rfl

theorem startsCased_plain (text : List Char) : startsCased (plain text) = startsCased text := by
  induction text with
  | nil => rfl
  | cons c rest ih =>
    have hplain : plain (c :: rest) = plainChar c ++ plain rest := rfl
    rw [hplain, startsCased_append, ih]
    by_cases htwin : HasTwin c
    · obtain ⟨-, -, -, hcased⟩ := twins_alike _ (mem_twins_of_hasTwin htwin)
      exact (hcased _).2
    · rw [plainChar_of_not_hasTwin htwin]
      rfl

theorem lowerAfter_plain (afterCased : Bool) (text : List Char) :
    lowerAfter afterCased (plain text) = lowerAfter afterCased text := by
  induction text generalizing afterCased with
  | nil => rfl
  | cons c rest ih =>
    have hplain : plain (c :: rest) = plainChar c ++ plain rest := rfl
    rw [hplain]
    by_cases htwin : HasTwin c
    · obtain ⟨hsigma, hsigmas, hlower, hcased⟩ := twins_alike _ (mem_twins_of_hasTwin htwin)
      rw [lowerAfter_append hsigmas, hlower, (hcased _).1, ih, lowerAfter]
      simp [hsigma, casedAfter]
    · rw [plainChar_of_not_hasTwin htwin, List.singleton_append, lowerAfter, lowerAfter, ih,
        startsCased_plain]

/-- Lower case does not tell a character from its twin. -/
theorem lower_plain (text : List Char) : lower (plain text) = lower text :=
  lowerAfter_plain false text

/-! ## Small forms -/

/-- Whether a character stands in upper case and has no twin. -/
def IsPlain (c : Char) : Prop := InUpper c ∧ ¬ HasTwin c

/-- The small forms of the plain characters that have one, after their capitals; a capital
sigma has two. -/
def smallForms : List (Nat × Nat) :=
  (0x3A3, 0x3C2) :: (moves lowerRuns).filter fun move =>
    !(marks (upperChanged ++ twins.map (·.1.toNat))).testBit move.1

/-- No two small forms are the same, none stands in upper case, and all are characters. -/
theorem smallForms_sound : areFresh 0 (smallForms.map (·.2)) = true ∧
    marks (smallForms.map (·.2)) ||| marks upperChanged = marks upperChanged ∧
      (smallForms.map (·.2)).all (fun n => decide n.isValidChar) = true := by
  decide +kernel

/-- Whether `d` is what lower case makes of the plain character `c`, which is `c` itself if
it has no small form. -/
def IsSmallForm (c d : Char) : Prop := IsPlain c ∧ (d = c ∨ (c.toNat, d.toNat) ∈ smallForms)

theorem not_inUpper_of_mem_smallForms {n : Nat} {d : Char} (h : (n, d.toNat) ∈ smallForms) :
    ¬ InUpper d := fun hd =>
  hd (mem_of_marks smallForms_sound.2.1 (List.mem_map_of_mem (f := (·.2)) h))

/-- A character is the small form of one plain character at most. -/
theorem isSmallForm_leftUnique : Relator.LeftUnique IsSmallForm := by
  rintro c c' d ⟨hc, hd⟩ ⟨hc', hd'⟩
  rcases hd with rfl | hd
  · rcases hd' with rfl | hd'
    · rfl
    · exact absurd hc.1 (not_inUpper_of_mem_smallForms hd')
  · rcases hd' with rfl | hd'
    · exact absurd hc'.1 (not_inUpper_of_mem_smallForms hd)
    · have hnodup := (nodup_of_areFresh smallForms_sound.1).1
      have hmove := List.inj_on_of_nodup_map hnodup hd hd' rfl
      exact Char.toNat_inj.mp (Prod.mk.inj hmove).1

theorem exists_lowerChar {c : Char} (h : IsPlain c) : ∃ d, lowerChar c = [d] ∧ IsSmallForm c d := by
  obtain ⟨hupper, htwin⟩ := h
  have hlookup : lowerExpansions.lookup c.toNat = none := by
    rw [List.lookup_eq_none_iff]
    intro e he
    rw [bne_iff_ne, List.mem_singleton.mp he]
    intro heq
    have hc : c = '\u0130' := Char.toNat_inj.mp heq
    exact htwin (hc ▸ by decide)
  cases himage : image? lowerRuns c.toNat with
  | none => exact ⟨c, by simp [lowerChar, mapChar, hlookup, himage], ⟨hupper, htwin⟩, .inl rfl⟩
  | some n =>
    refine ⟨Char.ofNat n, by simp [lowerChar, mapChar, hlookup, himage], ⟨hupper, htwin⟩, .inr ?_⟩
    have hmem : (c.toNat, n) ∈ smallForms := by
      refine List.mem_cons_of_mem _ (List.mem_filter.mpr ⟨mem_moves_of_image? himage, ?_⟩)
      have hcode : c.toNat ∉ twins.map (·.1.toNat) := by
        intro hmem
        obtain ⟨e, he, heq⟩ := List.mem_map.mp hmem
        exact htwin (Char.toNat_inj.mp heq ▸ List.mem_map_of_mem he)
      rw [testBit_marks, Bool.not_eq_true', decide_eq_false_iff_not, List.mem_append, not_or]
      exact ⟨hupper, hcode⟩
    have hvalid : n.isValidChar := by
      simpa using List.all_eq_true.mp smallForms_sound.2.2 n
        (List.mem_map_of_mem (f := (·.2)) hmem)
    rwa [toNat_ofNat hvalid]

/-- A plain text and its lower case correspond character by character. -/
theorem forall₂_isSmallForm {text : List Char} (h : ∀ c ∈ text, IsPlain c) (afterCased : Bool) :
    List.Forall₂ IsSmallForm text (lowerAfter afterCased text) := by
  induction text generalizing afterCased with
  | nil => exact .nil
  | cons c rest ih =>
    have hc := h c List.mem_cons_self
    have hrest := ih fun d hd => h d (List.mem_cons_of_mem c hd)
    rw [lowerAfter]
    split
    · -- a capital sigma at the end of a word
      rename_i hsigma
      obtain ⟨rfl, -⟩ := hsigma
      exact .cons ⟨hc, .inr List.mem_cons_self⟩ (hrest _)
    · obtain ⟨d, hd, hform⟩ := exists_lowerChar hc
      rw [hd]
      exact .cons hform (hrest _)

theorem eq_of_lower_eq {s t : List Char} (hs : ∀ c ∈ s, IsPlain c) (ht : ∀ c ∈ t, IsPlain c)
    (h : lower s = lower t) : s = t := by
  have hsmall := forall₂_isSmallForm hs false
  rw [← lower, h] at hsmall
  exact List.left_unique_forall₂' isSmallForm_leftUnique hsmall (forall₂_isSmallForm ht false)

/-! ## Texts in upper case -/

/-- Upper case changes no twin, and makes no character that has one. -/
theorem marks_twins : marks (twins.flatMap fun e => e.2.map Char.toNat) &&& marks upperChanged = 0 ∧
    marks (twins.map (·.1.toNat)) &&& marks upperMade = 0 := by
  decide +kernel

theorem not_hasTwin_of_mem_twins {e : Char × List Char} (he : e ∈ twins) :
    ∀ c ∈ e.2, ¬ HasTwin c :=
  not_hasTwin_of_all
    ((by decide : ∀ e ∈ twins, (e.2.all fun c => decide (¬ HasTwin c)) = true) e he)

theorem isPlain_of_mem_plain {text : List Char} (h : ∀ c ∈ text, InUpper c) {d : Char}
    (hd : d ∈ plain text) : IsPlain d := by
  obtain ⟨c, hc, hd⟩ := List.mem_flatMap.mp hd
  by_cases htwin : HasTwin c
  · have he := mem_twins_of_hasTwin htwin
    refine ⟨?_, not_hasTwin_of_mem_twins he d hd⟩
    exact not_mem_of_marks marks_twins.1 (List.mem_flatMap.mpr ⟨_, he, List.mem_map_of_mem hd⟩)
  · rw [plainChar_of_not_hasTwin htwin, List.mem_singleton] at hd
    exact hd ▸ ⟨h c hc, htwin⟩

/-- **What lower case keeps of texts in upper case** is everything but the difference between
characters and their twins. -/
theorem lower_eq_lower_iff {s t : List Char} (hs : ∀ c ∈ s, InUpper c) (ht : ∀ c ∈ t, InUpper c) :
    lower s = lower t ↔ plain s = plain t := by
  constructor
  · intro h
    rw [← lower_plain s, ← lower_plain t] at h
    exact eq_of_lower_eq (fun _ => isPlain_of_mem_plain hs) (fun _ => isPlain_of_mem_plain ht) h
  · intro h
    rw [← lower_plain s, h, lower_plain]

/-- Upper case makes no character that has a twin. -/
theorem not_hasTwin_of_mem_upper {text : List Char} (h : ∀ c ∈ text, ¬ HasTwin c) {d : Char}
    (hd : d ∈ upper text) : ¬ HasTwin d := by
  obtain ⟨c, hc, hd⟩ := List.mem_flatMap.mp hd
  rcases mem_upperMade_of_mem_upperChar hd with ⟨rfl, -⟩ | hmade
  · exact h d hc
  · intro htwin
    obtain ⟨e, he, rfl⟩ := List.mem_map.mp htwin
    exact not_mem_of_marks marks_twins.2 (List.mem_map_of_mem (f := (·.1.toNat)) he) hmade

end ProviderBindings.Text
