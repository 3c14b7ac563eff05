import Mathlib.Tactic.ByContra
import ProviderBindings.Entries
import ProviderBindings.Identifier
import ProviderBindings.Proofs.LetterCase

/-! # Names that derive identifiers

A network's name is never compared with a grammar of names: it is put in upper case, and
the result is checked.  This module says which names pass (`isLine_storage_iff`) and what
the two identifiers of such a name look like.  The names are made of the characters of
identifiers and of ten more whose upper case is made of them (`ligatures`).  Both
identifiers are then ASCII, the provider's in capitals and the accessor's in small
letters, and the upper case of the second gives back the first
(`upper_drop_accessor`).  Neither direction holds of all texts: small letters forget
more than capitals do outside ASCII.
-/
namespace ProviderBindings.Identifier
open Text CaseTable

/-- The code points above ASCII whose upper case is a sequence of letters of ASCII: `ß`,
the dotless `ı`, the long `ſ` and the ligatures `ﬀ` to `ﬆ`. -/
def ligatures : List Nat :=
  [0xDF, 0x131, 0x17F, 0xFB00, 0xFB01, 0xFB02, 0xFB03, 0xFB04, 0xFB05, 0xFB06]

/-- Whether a character can stand in a name that derives identifiers. -/
def isNameChar (c : Char) : Bool := isPart c || ligatures.contains c.toNat

/-- A name that derives identifiers: it is not empty, it is made of the characters above,
and it does not begin with a digit of ASCII. -/
structure IsName (name : String) : Prop where
  nonempty : name ≠ ""
  chars : ∀ c ∈ name.toList, isNameChar c = true
  head : ∀ c, name.toList.head? = some c → c.isDigit = false

/-- Whether a character can stand in the identifier of a provider. -/
def isCapital (c : Char) : Bool := c.isUpper || c.isDigit || c == '_'

/-- Whether a character can stand in the identifier of an accessor. -/
def isSmall (c : Char) : Bool := c.isLower || c.isDigit || c == '_'

/-- The form of the identifier of a provider: a capital letter or `_`, characters of
`isCapital`, and the ending. -/
def IsProvider (text : String) : Prop :=
  ∃ c rest, text.toList = c :: rest ++ storageEnding.toList ∧ (c.isUpper || c == '_') = true ∧
    ∀ d ∈ rest, isCapital d = true

/-- The form of the identifier of an accessor: characters of `isSmall`, of which the first
ones are the start. -/
def IsAccessor (text : String) : Prop :=
  accessorStart.toList <+: text.toList ∧ ∀ c ∈ text.toList, isSmall c = true

/-! ## Characters -/

theorem isStart_eq (c : Char) : isStart c = (c.isUpper || c.isLower || c == '_') := rfl

theorem isPart_eq (c : Char) : isPart c = (c.isUpper || c.isLower || c.isDigit || c == '_') := rfl

theorem isAscii_of_isPart {c : Char} (h : isPart c = true) : isAscii c = true := by
  have hle : c.val ≤ 'z'.val := by
    rw [isPart_eq, Bool.or_eq_true, Bool.or_eq_true, Bool.or_eq_true, beq_iff_eq] at h
    rcases h with ((h | h) | h) | rfl
    · have hc : 'A'.val ≤ c.val ∧ c.val ≤ 'Z'.val := of_decide_eq_true h
      exact UInt32.le_trans hc.2 (by decide)
    · have hc := Bool.and_eq_true_iff.mp h
      exact of_decide_eq_true hc.2
    · have hc := Bool.and_eq_true_iff.mp h
      have hle : c.val ≤ '9'.val := of_decide_eq_true hc.2
      exact UInt32.le_trans hle (by decide)
    · decide
  exact decide_eq_true (Nat.lt_of_le_of_lt (UInt32.le_iff_toNat_le.mp hle) (by decide))

theorem isPart_of_isCapital {c : Char} (h : isCapital c = true) : isPart c = true := by
  simp only [isCapital, Bool.or_eq_true, isPart_eq] at h ⊢
  rcases h with (h | h) | h <;> simp [h]

theorem isAscii_of_isCapital {c : Char} (h : isCapital c = true) : isAscii c = true :=
  isAscii_of_isPart (isPart_of_isCapital h)

/-- What the change of case does to the characters of identifiers, checked on all of ASCII. -/
theorem classes_of_ascii {c : Char} (hc : isAscii c = true) :
    (isPart c = true → isStart c.toUpper = !c.isDigit ∧ isCapital c.toUpper = true) ∧
      (isPart c = false → isPart c.toUpper = false) ∧
      (isStart c = true → isCapital c = true → (c.isUpper || c == '_') = true) ∧
      (isCapital c = true →
        isSmall c.toLower = true ∧ c.toLower.toUpper = c ∧ isAscii c.toLower = true) := by
  revert c
  refine @forall_ascii _ ?_
  decide +kernel

/-- A code point that is 128 or more is none of a character of an identifier. -/
theorem isPart_ofNat_eq_false {n : Nat} (h : 128 ≤ n) : isPart (Char.ofNat n) = false := by
  rw [Bool.eq_false_iff]
  intro hpart
  have hlt : (Char.ofNat n).toNat < 128 := by simpa [isAscii] using isAscii_of_isPart hpart
  by_cases hn : n.isValidChar
  · rw [Char.ofNat, dif_pos hn] at hlt
    exact absurd hlt (Nat.not_lt.mpr h)
  · rw [Char.ofNat, dif_neg hn] at hpart
    exact absurd hpart (by decide)

/-- The upper case of a ligature, as the table has it. -/
theorem upperChar_ligature : ∀ n ∈ ligatures, (Char.ofNat n).isDigit = false ∧
    (upperChar (Char.ofNat n)).isEmpty = false ∧
      (upperChar (Char.ofNat n)).all Char.isUpper = true := by
  decide +kernel

/-- The upper case of a character of a name: capitals only, of which the first can begin
an identifier unless the character is a digit. -/
theorem upperChar_of_isNameChar {c : Char} (h : isNameChar c = true) :
    ∃ d rest, upperChar c = d :: rest ∧ isStart d = !c.isDigit ∧
      ∀ e ∈ d :: rest, isCapital e = true := by
  rw [isNameChar, Bool.or_eq_true] at h
  rcases h with hpart | hlig
  · -- within ASCII the upper case is one character
    have hc := isAscii_of_isPart hpart
    refine ⟨c.toUpper, [], upperChar_of_ascii hc, ?_⟩
    simpa using (classes_of_ascii hc).1 hpart
  · -- a ligature becomes letters, as the table has it
    obtain ⟨hdigit, hne, hupper⟩ := upperChar_ligature c.toNat (by simpa using hlig)
    rw [Char.ofNat_toNat] at hdigit hne hupper
    obtain ⟨d, rest, hd⟩ : ∃ d rest, upperChar c = d :: rest := by
      cases hu : upperChar c with
      | nil => simp [hu] at hne
      | cons d rest => exact ⟨d, rest, rfl⟩
    rw [hd, List.all_eq_true] at hupper
    refine ⟨d, rest, hd, ?_, fun e he => by simp [isCapital, hupper e he]⟩
    simp [hdigit, isStart_eq, hupper d List.mem_cons_self]

/-- The runs of the upper case that lead into ASCII: that of the small letters, and the
two of single ligatures. -/
theorem upperRuns_above : upperRuns.all (fun r => decide (r.last < 128) ||
    (r.first == r.last && ligatures.contains r.first) ||
      decide (128 ≤ ((r.first : Int) + r.shift).toNat)) = true := by
  decide +kernel

/-- The expansions of the upper case that lead into ASCII are those of ligatures. -/
theorem upperExpansions_above : upperExpansions.all (fun e => ligatures.contains e.1 ||
    e.2.any fun n => decide (128 ≤ n)) = true := by
  decide +kernel

theorem image?_upperRuns_above {n m : Nat} (hn : 128 ≤ n) (hlig : ligatures.contains n = false)
    (h : image? upperRuns n = some m) : 128 ≤ m := by
  obtain ⟨r, hr, rfl⟩ := Option.map_eq_some_iff.mp h
  have hmaps := List.find?_some hr
  have htable := List.all_eq_true.mp upperRuns_above r (List.mem_of_find?_eq_some hr)
  simp only [Run.maps, Bool.and_eq_true, decide_eq_true_eq] at hmaps
  simp only [Bool.or_eq_true, Bool.and_eq_true, decide_eq_true_eq, beq_iff_eq] at htable
  rcases htable with (hlast | ⟨hsingle, hcontains⟩) | habove
  · omega
  · rw [show n = r.first by omega, hcontains] at hlig
    cases hlig
  · omega

theorem lookup_upperExpansions_above {n : Nat} {codes : List Nat}
    (hlig : ligatures.contains n = false) (h : upperExpansions.lookup n = some codes) :
    ∃ m ∈ codes, 128 ≤ m := by
  have htable := List.all_eq_true.mp upperExpansions_above _ (Entries.mem_of_lookup h)
  have hn : n ∉ ligatures := by simpa using hlig
  simpa [hn] using htable

/-- Outside the characters of names, some character of the upper case is none of an
identifier. -/
theorem exists_upperChar_of_not_isNameChar {c : Char} (h : isNameChar c = false) :
    ∃ d ∈ upperChar c, isPart d = false := by
  obtain ⟨hpart, hlig⟩ := Bool.or_eq_false_iff.mp h
  by_cases hc : isAscii c = true
  · rw [upperChar_of_ascii hc]
    refine ⟨c.toUpper, List.mem_cons_self, ?_⟩
    exact (classes_of_ascii hc).2.1 hpart
  · -- above ASCII: an expansion, a character of a run, or the character itself
    have hge : 128 ≤ c.toNat := by simpa [isAscii] using hc
    unfold upperChar mapChar
    split
    · rename_i codes hcodes
      obtain ⟨m, hm, hle⟩ := lookup_upperExpansions_above hlig hcodes
      exact ⟨Char.ofNat m, List.mem_map_of_mem hm, isPart_ofNat_eq_false hle⟩
    · split
      · rename_i m himage
        exact ⟨_, List.mem_cons_self,
          isPart_ofNat_eq_false (image?_upperRuns_above hge hlig himage)⟩
      · exact ⟨c, List.mem_cons_self, hpart⟩

/-! ## Names -/

theorem IsName.cons {name : String} (h : IsName name) :
    ∃ c rest, name.toList = c :: rest ∧ c.isDigit = false := by
  cases hn : name.toList with
  | nil => exact absurd (String.toList_eq_nil_iff.mp hn) h.nonempty
  | cons c rest => exact ⟨c, rest, rfl, h.head c (by rw [hn]; rfl)⟩

/-- The upper case of a name begins as an identifier does. -/
theorem IsName.upper {name : String} (h : IsName name) :
    ∃ d rest, Text.upper name.toList = d :: rest ∧ isStart d = true ∧
      ∀ e ∈ d :: rest, isCapital e = true := by
  obtain ⟨c, more, hname, hdigit⟩ := h.cons
  have hchars := h.chars
  rw [hname] at hchars
  obtain ⟨d, rest, hd, hstart, hcapital⟩ := upperChar_of_isNameChar (hchars c List.mem_cons_self)
  refine ⟨d, rest ++ Text.upper more, ?_, by rw [hstart, hdigit]; rfl, ?_⟩
  · rw [hname, Text.upper, List.flatMap_cons, hd]
    rfl
  · intro e he
    rcases List.mem_append.mp (List.cons_append ▸ he) with he | he
    · exact hcapital e he
    · obtain ⟨b, hb, he⟩ := List.mem_flatMap.mp he
      obtain ⟨d', rest', hd', -, hcapital'⟩ :=
        upperChar_of_isNameChar (hchars b (List.mem_cons_of_mem c hb))
      exact hcapital' e (hd' ▸ he)

theorem isWord_storage {name : String} (h : IsName name) :
    isWord (storage name).toList = true := by
  obtain ⟨d, rest, hd, hstart, hcapital⟩ := h.upper
  rw [storage_toList, hd, List.cons_append, isWord, hstart, Bool.true_and, List.all_append,
    Bool.and_eq_true, List.all_eq_true]
  exact ⟨fun e he => isPart_of_isCapital (hcapital e (List.mem_cons_of_mem d he)), by decide⟩

theorem isPart_of_isStart {c : Char} (h : isStart c = true) : isPart c = true := by
  simp only [isStart, isPart, Char.isAlphanum, Bool.or_eq_true] at h ⊢
  rcases h with h | h <;> simp [h]

theorem isPart_of_isWord {text : List Char} (h : isWord text = true) :
    ∀ c ∈ text, isPart c = true := by
  cases text with
  | nil => simp
  | cons c rest =>
    rw [isWord, Bool.and_eq_true, List.all_eq_true] at h
    intro d hd
    rcases List.mem_cons.mp hd with rfl | hd
    · exact isPart_of_isStart h.1
    · exact h.2 d hd

theorem isName_of_isWord {name : String} (hne : name ≠ "")
    (h : isWord (storage name).toList = true) : IsName name := by
  -- a character of the name that is none of `isNameChar` would show in the identifier
  have hpart := isPart_of_isWord h
  rw [storage_toList] at hpart
  have hchars : ∀ c ∈ name.toList, isNameChar c = true := by
    intro c hc
    by_contra hname
    obtain ⟨d, hd, hdpart⟩ := exists_upperChar_of_not_isNameChar (Bool.eq_false_iff.mpr hname)
    have hmem : d ∈ Text.upper name.toList := List.mem_flatMap.mpr ⟨c, hc, hd⟩
    rw [hpart d (List.mem_append_left _ hmem)] at hdpart
    cases hdpart
  refine ⟨hne, hchars, ?_⟩
  intro c hc
  obtain ⟨rest, hname⟩ : ∃ rest, name.toList = c :: rest := List.head?_eq_some_iff.mp hc
  obtain ⟨d, more, hd, hstart, -⟩ :=
    upperChar_of_isNameChar (hchars c (by rw [hname]; exact List.mem_cons_self))
  rw [storage_toList, hname, Text.upper, List.flatMap_cons, hd, List.cons_append, List.cons_append,
    isWord, hstart, Bool.and_eq_true] at h
  simpa using h.1

/-- An end of line is not missed: an identifier of a provider ends in a letter. -/
theorem isLine_storage (name : String) :
    isLine (storage name) = isWord (storage name).toList := by
  have hlast : (storage name).toList.getLast? = some 'R' := by
    rw [storage_toList, List.getLast?_append]
    rfl
  rw [isLine, hlast]
  simp

/-- **The names that pass the check of identifiers** are, but for the empty one, exactly
the names of `IsName`. -/
theorem isLine_storage_iff {name : String} (hne : name ≠ "") :
    isLine (storage name) = true ↔ IsName name := by
  rw [isLine_storage]
  exact ⟨isName_of_isWord hne, isWord_storage⟩

/-! ## The identifiers of a name -/

section

variable {name other : String}

theorem isProvider_storage (h : IsName name) : IsProvider (storage name) := by
  obtain ⟨c, rest, hc, hstart, hcapital⟩ := h.upper
  have hhead := hcapital c List.mem_cons_self
  refine ⟨c, rest, by rw [storage_toList, hc], ?_,
    fun d hd => hcapital d (List.mem_cons_of_mem c hd)⟩
  exact (classes_of_ascii (isAscii_of_isCapital hhead)).2.2.1 hstart hhead

theorem isCapital_storage (h : IsName name) : ∀ c ∈ (storage name).toList, isCapital c = true := by
  obtain ⟨d, rest, hd, -, hcapital⟩ := h.upper
  intro c hc
  rw [storage_toList, hd] at hc
  rcases List.mem_append.mp hc with hc | hc
  · exact hcapital c hc
  · exact List.all_eq_true.mp (by decide : storageEnding.toList.all isCapital = true) c hc

/-- The accessor of a name is its provider's identifier in small letters. -/
theorem accessor_eq_map (h : IsName name) : (accessor name).toList =
    accessorStart.toList ++ (storage name).toList.map Char.toLower := by
  rw [accessor_toList, lower_of_ascii fun c hc => isAscii_of_isCapital (isCapital_storage h c hc)]

theorem isSmall_accessor (h : IsName name) : ∀ c ∈ (accessor name).toList, isSmall c = true := by
  intro c hc
  rw [accessor_eq_map h] at hc
  rcases List.mem_append.mp hc with hc | hc
  · exact List.all_eq_true.mp (by decide : accessorStart.toList.all isSmall = true) c hc
  · obtain ⟨d, hd, rfl⟩ := List.mem_map.mp hc
    have hcapital := isCapital_storage h d hd
    exact ((classes_of_ascii (isAscii_of_isCapital hcapital)).2.2.2 hcapital).1

theorem isAccessor_accessor (h : IsName name) : IsAccessor (accessor name) :=
  ⟨⟨_, (accessor_eq_map h).symm⟩, isSmall_accessor h⟩

/-- **The accessor of a name gives its provider back.** -/
theorem upper_drop_accessor (h : IsName name) :
    Text.upper ((accessor name).toList.drop accessorStart.length) = (storage name).toList := by
  -- both mappings stay within ASCII here, where they go character by character
  have hcapital := isCapital_storage h
  have hback : ∀ c ∈ (storage name).toList, c.toLower.toUpper = c ∧ isAscii c.toLower = true := by
    intro c hc
    exact ((classes_of_ascii (isAscii_of_isCapital (hcapital c hc))).2.2.2 (hcapital c hc)).2
  rw [accessor_eq_map h, ← String.length_toList, List.drop_left, upper_of_ascii, List.map_map]
  · exact (List.map_congr_left (g := id) fun c hc => (hback c hc).1).trans (List.map_id _)
  · intro c hc
    obtain ⟨d, hd, rfl⟩ := List.mem_map.mp hc
    exact (hback d hd).2

theorem storage_eq_of_accessor_eq (hname : IsName name) (hother : IsName other)
    (h : accessor name = accessor other) : storage name = storage other := by
  apply String.toList_injective
  rw [← upper_drop_accessor hname, ← upper_drop_accessor hother, h]

/-- No provider has the identifier of an accessor: one ends in a capital, the other has
none. -/
theorem storage_ne_accessor (hother : IsName other) : storage name ≠ accessor other := by
  intro h
  have hmem : 'R' ∈ (storage name).toList := by
    rw [storage_toList]
    exact List.mem_append_right _ (by decide)
  rw [h] at hmem
  exact absurd (isSmall_accessor hother 'R' hmem) (by decide)

end

end ProviderBindings.Identifier
