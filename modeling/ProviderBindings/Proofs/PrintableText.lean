import ProviderBindings.Proofs.Attempt
import ProviderBindings.Proofs.ValueText

/-! # Values are shown by printable characters

The text that shows which value it is holds printable characters only
(`Value.allPrintable_inspect`), whatever strings stand in the value and however deep.  Numbers,
dates and times are written in ASCII.  A string is quoted, and the quoted form puts an escape for
every character that does not show as itself (`Text.allPrintable_quoted`), so that no end of line
is left in it.
-/
namespace ProviderBindings

namespace Text

/-- A text all of whose characters show as themselves. -/
def AllPrintable (text : List Char) : Prop := ∀ c ∈ text, isPrintable c = true

/-- Whether a character is one of ASCII that shows as itself. -/
def isVisible (c : Char) : Bool := decide (0x20 ≤ c.toNat) && decide (c.toNat < 0x7F)

/-- Every range of the table of other characters stands below these or above. -/
theorem isPrintable_of_isVisible {c : Char} (h : isVisible c = true) : isPrintable c = true := by
  have hranges : unprintable.all (fun r => decide (r.last < 0x20) || decide (0x7F ≤ r.first)) =
      true := by
    decide +kernel
  simp only [isVisible, Bool.and_eq_true, decide_eq_true_eq] at h
  rw [isPrintable, Bool.not_eq_true', Bool.eq_false_iff]
  intro hcovers
  obtain ⟨r, hr, hfirst, hlast⟩ := (CodeRange.covers_iff unprintable c).mp hcovers
  have hrange := List.all_eq_true.mp hranges r hr
  simp only [Bool.or_eq_true, decide_eq_true_eq] at hrange
  omega

theorem isVisible_of_isDigit {c : Char} (h : c.isDigit = true) : isVisible c = true := by
  have hdigit : '0'.val ≤ c.val ∧ c.val ≤ '9'.val := by simpa [Char.isDigit] using h
  have hlow : 48 ≤ c.toNat := UInt32.le_iff_toNat_le.mp hdigit.1
  have hhigh : c.toNat ≤ 57 := UInt32.le_iff_toNat_le.mp hdigit.2
  simp only [isVisible, Bool.and_eq_true, decide_eq_true_eq]
  omega

namespace AllPrintable

variable {s t : List Char} {c : Char}

theorem nil : AllPrintable [] := by
  intro c hc
  cases hc

theorem cons (hc : isVisible c = true) (h : AllPrintable s) : AllPrintable (c :: s) := by
  intro d hd
  rcases List.mem_cons.mp hd with rfl | hd
  · exact isPrintable_of_isVisible hc
  · exact h d hd

theorem append (hs : AllPrintable s) (ht : AllPrintable t) : AllPrintable (s ++ t) := by
  intro c hc
  rcases List.mem_append.mp hc with hc | hc
  · exact hs c hc
  · exact ht c hc

theorem of_visible (h : s.all isVisible = true) : AllPrintable s :=
  fun c hc => isPrintable_of_isVisible (List.all_eq_true.mp h c hc)

theorem of_digits (h : ∀ c ∈ s, c.isDigit = true) : AllPrintable s :=
  fun c hc => isPrintable_of_isVisible (isVisible_of_isDigit (h c hc))

theorem mono (h : AllPrintable t) (hst : ∀ c ∈ s, c ∈ t) : AllPrintable s :=
  fun c hc => h c (hst c hc)

theorem replicate (hc : isVisible c = true) (count : Nat) :
    AllPrintable (List.replicate count c) := by
  intro d hd
  rw [List.eq_of_mem_replicate hd]
  exact isPrintable_of_isVisible hc

theorem intercalate {separator : String} {texts : List String}
    (hseparator : AllPrintable separator.toList) (h : ∀ t ∈ texts, AllPrintable t.toList) :
    AllPrintable (separator.intercalate texts).toList := by
  rw [String.toList_intercalate]
  induction texts with
  | nil => exact nil
  | cons t rest ih =>
    have hrest := ih fun u hu => h u (List.mem_cons_of_mem t hu)
    cases rest with
    | nil => simpa using h t List.mem_cons_self
    | cons u others =>
      rw [List.map_cons, List.map_cons, List.intercalate_cons_cons]
      exact ((h t List.mem_cons_self).append hseparator).append hrest

theorem append_toList {s t : String} (hs : AllPrintable s.toList) (ht : AllPrintable t.toList) :
    AllPrintable (s ++ t).toList := by
  rw [String.toList_append]
  exact hs.append ht

/-- A printable text is on one line. -/
theorem newline_not_mem (h : AllPrintable s) : '\n' ∉ s := by
  intro hmem
  exact absurd (h '\n' hmem) (by decide +kernel)

end AllPrintable

/-! ## Numbers -/

theorem isVisible_of_mem_toDigits {base n : Nat} (hbase : 1 < base) (h16 : base ≤ 16) {c : Char}
    (h : c ∈ Nat.toDigits base n) : isVisible c = true := by
  have hdigit : ∀ k < base, isVisible k.digitChar = true := by
    have hall : ∀ k < 16, isVisible (Nat.digitChar k) = true := by decide
    intro k hk
    exact hall k (Nat.lt_of_lt_of_le hk h16)
  induction n using Nat.strongRecOn with
  | ind n ih =>
    by_cases hn : n < base
    · rw [Nat.toDigits_of_lt_base hn, List.mem_singleton] at h
      rw [h]
      exact hdigit n hn
    · -- the last digit, and the digits before it
      rw [Nat.toDigits_of_base_le hbase (Nat.le_of_not_lt hn), List.mem_append,
        List.mem_singleton] at h
      rcases h with h | rfl
      · exact ih (n / base) (Nat.div_lt_self (by omega) hbase) h
      · exact hdigit _ (Nat.mod_lt n (by omega))

theorem allPrintable_decimal (n : Nat) : AllPrintable (decimal n) :=
  .of_digits fun _ hc => isDigit_of_mem_decimal hc

theorem allPrintable_integer (n : Int) : AllPrintable (integer n) := by
  unfold integer
  split
  · exact .cons rfl (allPrintable_decimal _)
  · exact allPrintable_decimal _

theorem allPrintable_zeroPadded {s : List Char} (h : AllPrintable s) (width : Nat) :
    AllPrintable (zeroPadded width s) :=
  (AllPrintable.replicate rfl _).append h

theorem allPrintable_paddedHex (width n : Nat) : AllPrintable (paddedHex width n) :=
  allPrintable_zeroPadded
    (fun _ hc => isPrintable_of_isVisible (isVisible_of_mem_toDigits (by decide) (by decide) hc)) _

theorem allPrintable_toString (n : Nat) : AllPrintable (toString n).toList := by
  have htext : (toString n).toList = decimal n := by
    rw [Nat.toString_eq_repr, Nat.toList_repr]
    rfl
  rw [htext]
  exact allPrintable_decimal n

theorem allPrintable_toString_int (n : Int) : AllPrintable (toString n).toList := by
  cases n with
  | ofNat k => exact allPrintable_toString k
  | negSucc k => exact .append_toList (s := "-") (.of_visible rfl) (allPrintable_toString (k + 1))

/-! ## Quoted text -/

theorem quoteMark_eq (text : List Char) : quoteMark text = '"' ∨ quoteMark text = '\'' := by
  unfold quoteMark
  split
  · exact .inl rfl
  · exact .inr rfl

theorem isVisible_quoteMark (text : List Char) : isVisible (quoteMark text) = true := by
  rcases quoteMark_eq text with h | h <;> rw [h] <;> rfl

theorem allPrintable_codeEscape (c : Char) : AllPrintable (codeEscape c) := by
  unfold codeEscape
  split
  · exact .cons rfl (.cons rfl (allPrintable_paddedHex _ _))
  · split
    · exact .cons rfl (.cons rfl (allPrintable_paddedHex _ _))
    · exact .cons rfl (.cons rfl (allPrintable_paddedHex _ _))

theorem allPrintable_quotedChar {mark : Char} (hmark : isVisible mark = true) (c : Char) :
    AllPrintable (quotedChar mark c) := by
  unfold quotedChar
  split
  · rename_i hc
    rcases hc with rfl | rfl
    · exact .cons rfl (.cons hmark .nil)
    · exact .of_visible rfl
  · split
    · exact .of_visible rfl
    · split
      · exact .of_visible rfl
      · split
        · exact .of_visible rfl
        · split
          · rename_i hprintable
            intro d hd
            rw [List.mem_singleton.mp hd]
            exact hprintable
          · exact allPrintable_codeEscape c

/-- **A quoted text is printable**, whatever the text. -/
theorem allPrintable_quoted (text : String) : AllPrintable (quoted text).toList := by
  have hmark := isVisible_quoteMark text.toList
  rw [quoted, String.toList_ofList, quotedChars]
  refine .cons hmark (.append ?_ (.cons hmark .nil))
  intro d hd
  obtain ⟨c, -, hd⟩ := List.mem_flatMap.mp hd
  exact allPrintable_quotedChar hmark c d hd

end Text

open Text

/-! ## Fractions -/

theorem Shortest.mem_of_mem_trimZeros {digits : List Char} {c : Char}
    (h : c ∈ Shortest.trimZeros digits) : c ∈ digits := by
  rw [trimZeros, List.mem_reverse] at h
  exact List.mem_reverse.mp ((List.dropWhile_sublist _).mem h)

theorem allPrintable_shortest (mantissa : Nat) (exponent : Int) :
    AllPrintable (shortest mantissa exponent).digits := by
  unfold shortest
  split
  · exact .of_visible rfl
  · exact (allPrintable_decimal _).mono fun _ => Shortest.mem_of_mem_trimZeros

namespace Layout

theorem allPrintable_positional {digits : List Char} (h : AllPrintable digits) (place : Int) :
    AllPrintable (positional digits place) := by
  unfold positional
  split
  · exact (AllPrintable.cons rfl (.cons rfl (.replicate rfl _))).append h
  · have hshown := h.append (AllPrintable.replicate (c := '0') rfl (place.toNat + 1 + 1 - digits.length))
    exact (hshown.mono fun _ => List.mem_of_mem_take).append
      (.cons rfl (hshown.mono fun _ => List.mem_of_mem_drop))

theorem allPrintable_scientific {digits : List Char} (h : AllPrintable digits)
    (exponentDigits : Nat) (place : Int) :
    AllPrintable (scientific exponentDigits digits place) := by
  have hsign : isVisible (if place < 0 then '-' else '+') = true := by
    split <;> rfl
  unfold scientific
  refine ((h.mono fun _ => List.mem_of_mem_take).append ?_).append
    (.cons rfl (.cons hsign (allPrintable_zeroPadded (allPrintable_decimal _) _)))
  split
  · exact .nil
  · exact .cons rfl (h.mono fun _ => List.mem_of_mem_drop)

end Layout

theorem Binary64.allPrintable_text (layout : Layout) (x : Binary64) :
    AllPrintable (x.text layout) := by
  cases x with
  | nan => exact .of_visible rfl
  | infinite negative => cases negative <;> exact .of_visible rfl
  | finite negative mantissa exponent =>
    have hbody : AllPrintable (layout.unsigned (shortest mantissa exponent)) := by
      have hdigits := allPrintable_shortest mantissa exponent
      unfold Layout.unsigned
      split
      · exact Layout.allPrintable_positional hdigits _
      · exact Layout.allPrintable_scientific hdigits _ _
    cases negative with
    | true => exact .cons rfl hbody
    | false => exact hbody

/-! ## Dates and times -/

theorem allPrintable_argumentList (parts : List Nat) : AllPrintable (argumentList parts).toList := by
  refine .intercalate (.of_visible rfl) fun t ht => ?_
  obtain ⟨n, -, rfl⟩ := List.mem_map.mp ht
  rw [String.toList_ofList]
  exact allPrintable_decimal n

theorem Date.allPrintable_inspect (d : Date) : AllPrintable d.inspect.toList :=
  .append_toList (.append_toList (.of_visible rfl) (allPrintable_argumentList _)) (.of_visible rfl)

theorem TimeOfDay.allPrintable_inspect (t : TimeOfDay) : AllPrintable t.inspect.toList :=
  .append_toList (.append_toList (.of_visible rfl) (allPrintable_argumentList _)) (.of_visible rfl)

theorem Moment.allPrintable_inspectOffset (offset : Int) :
    AllPrintable (inspectOffset offset).toList := by
  have hspan : ∀ start : String, start.toList.all isVisible = true → ∀ seconds : Int,
      AllPrintable (start ++ toString seconds).toList := fun start hstart seconds =>
    .append_toList (.of_visible hstart) (allPrintable_toString_int seconds)
  unfold inspectOffset
  split
  · exact .of_visible rfl
  · refine .append_toList (.append_toList (.of_visible rfl) ?_) (.of_visible rfl)
    split
    · exact hspan "days=-1, seconds=" rfl _
    · exact hspan "seconds=" rfl _

theorem Moment.allPrintable_inspect (m : Moment) : AllPrintable m.inspect.toList := by
  unfold inspect
  refine .append_toList (.append_toList (.append_toList (.of_visible rfl)
    (allPrintable_argumentList _)) ?_) (.of_visible rfl)
  dsimp only [toString]
  split
  · exact .append_toList (.of_visible rfl) (allPrintable_inspectOffset _)
  · exact .nil

/-! ## Values -/

theorem allPrintable_integerText {n : Int} {text : String} (h : integerText n = .ok text) :
    AllPrintable text.toList := by
  by_cases hshort : IsShort n
  · rw [integerText_of_isShort hshort] at h
    cases h
    rw [String.toList_ofList]
    exact allPrintable_integer n
  · rw [integerText_of_not_isShort hshort] at h
    cases h

/-- Texts between brackets, separated by commas. -/
theorem allPrintable_bracketed {left right : String} (hleft : left.toList.all isVisible = true)
    (hright : right.toList.all isVisible = true) {texts : List String}
    (h : ∀ t ∈ texts, AllPrintable t.toList) :
    AllPrintable (left ++ ", ".intercalate texts ++ right).toList :=
  .append_toList (.append_toList (.of_visible hleft) (.intercalate (.of_visible rfl) h))
    (.of_visible hright)

namespace Value

mutual

/-- **A value is shown by printable characters.** -/
theorem allPrintable_inspect : ∀ (v : Value) {text : String}, v.inspect = .ok text →
    AllPrintable text.toList
  | .integer n => by
    intro h
    rw [inspect] at h
    exact allPrintable_integerText h
  | .float x => by
    intro h
    rw [inspect] at h
    cases h
    rw [String.toList_ofList]
    exact x.allPrintable_text .standard
  | .string s => by
    intro h
    rw [inspect_string] at h
    cases h
    exact allPrintable_quoted s
  | .array items => by
    intro h
    rw [inspect] at h
    obtain ⟨texts, htexts, htext⟩ := Attempt.bind_eq_ok_iff.mp h
    cases htext
    exact allPrintable_bracketed rfl rfl (allPrintable_inspectItems items htexts)
  | .table entries => by
    intro h
    rw [inspect] at h
    obtain ⟨texts, htexts, htext⟩ := Attempt.bind_eq_ok_iff.mp h
    cases htext
    exact allPrintable_bracketed rfl rfl (allPrintable_inspectEntries entries htexts)
  | .moment m => by
    intro h
    rw [inspect] at h
    cases h
    exact m.allPrintable_inspect
  | .date d => by
    intro h
    rw [inspect] at h
    cases h
    exact d.allPrintable_inspect
  | .time t => by
    intro h
    rw [inspect] at h
    cases h
    exact t.allPrintable_inspect
  | .absent => by
    intro h
    rw [inspect] at h
    cases h
    exact .of_visible rfl
  | .boolean b => by
    intro h
    rw [inspect] at h
    cases h
    cases b <;> exact .of_visible rfl

theorem allPrintable_inspectItems : ∀ (items : List Value) {texts : List String},
    inspectItems items = .ok texts → ∀ t ∈ texts, AllPrintable t.toList
  | [] => by
    intro h
    rw [inspectItems] at h
    cases h
    simp
  | v :: rest => by
    intro h
    rw [inspectItems] at h
    obtain ⟨text, htext, h⟩ := Attempt.bind_eq_ok_iff.mp h
    obtain ⟨others, hothers, h⟩ := Attempt.bind_eq_ok_iff.mp h
    cases h
    exact List.forall_mem_cons.mpr
      ⟨allPrintable_inspect v htext, allPrintable_inspectItems rest hothers⟩

theorem allPrintable_inspectEntries : ∀ (entries : List (String × Value)) {texts : List String},
    inspectEntries entries = .ok texts → ∀ t ∈ texts, AllPrintable t.toList
  | [] => by
    intro h
    rw [inspectEntries] at h
    cases h
    simp
  | (key, v) :: rest => by
    intro h
    rw [inspectEntries] at h
    obtain ⟨text, htext, h⟩ := Attempt.bind_eq_ok_iff.mp h
    obtain ⟨others, hothers, h⟩ := Attempt.bind_eq_ok_iff.mp h
    cases h
    have hkey : AllPrintable (quoted key ++ ": ").toList :=
      .append_toList (allPrintable_quoted key) (.of_visible rfl)
    exact List.forall_mem_cons.mpr
      ⟨.append_toList hkey (allPrintable_inspect v htext), allPrintable_inspectEntries rest hothers⟩

end

end Value

end ProviderBindings
