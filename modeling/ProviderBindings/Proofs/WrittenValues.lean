import ProviderBindings.Proofs.ValueText
import ProviderBindings.Toml.Item

/-! # Writing strings and integers into a document

A string is written between quotation marks.  The characters that may not stand there as they
are, are escaped: the mark and the backslash by a backslash, control characters by their code.
An integer is written with its digits.  Both are read back as they were, whatever the line goes
on with, if it ends after them (`readItem_basicString`, `readItem_integer`).

The digits of an integer could also begin a date, a time or a number in another base.  None of
these is a sequence of digits alone, and a number but zero does not begin with the digit `0`.
-/
namespace ProviderBindings.Toml

open Text

/-! ## Strings -/

/-- A character as it stands between quotation marks. -/
def escaped (c : Char) : List Char :=
  if c = '"' ∨ c = '\\' then ['\\', c]
  else if isControl c then '\\' :: 'u' :: paddedHex 4 c.toNat
  else [c]

/-- A string between quotation marks. -/
def basicString (text : String) : String :=
  "\"" ++ String.ofList (text.toList.flatMap escaped) ++ "\""

/-- The code of an escape has four digits, of which none is a control character. -/
theorem paddedHex_control {n : Nat} (h : n < 128) : (paddedHex 4 n).length = 4 ∧
    hexValue? (paddedHex 4 n) = some n ∧ ∀ c ∈ paddedHex 4 n, isControl c = false := by
  have hall : ((List.range 128).all fun n => (paddedHex 4 n).length == 4 &&
      hexValue? (paddedHex 4 n) == some n && (paddedHex 4 n).all fun c => !isControl c) = true := by
    decide +kernel
  simpa [and_assoc] using List.all_eq_true.mp hall n (List.mem_range.mpr h)

theorem toNat_lt_of_isControl {c : Char} (h : isControl c = true) : c.toNat < 128 := by
  rw [isControl, Bool.or_eq_true, decide_eq_true_iff, beq_iff_eq] at h
  omega

/-- A character is read back from what stands for it, before all that follows. -/
theorem readBasic_escaped (c : Char) (rest : List Char) :
    readBasic false .none (escaped c ++ rest) = before c (readBasic false .none rest) := by
  unfold escaped
  split
  · rename_i hc
    rw [List.cons_append, List.cons_append, List.nil_append, readBasic.eq_def]
    rcases hc with rfl | rfl <;> rfl
  · rename_i hc
    rw [not_or] at hc
    split
    · rename_i hcontrol
      obtain ⟨hlength, hvalue, -⟩ := paddedHex_control (toNat_lt_of_isControl hcontrol)
      generalize paddedHex 4 c.toNat = digits at hlength hvalue
      match digits, hlength with
      | [w, x, y, z], _ =>
        have hvalid : c.toNat.isValidChar := c.valid
        have hchar : Char.ofNat c.toNat = c := Char.ofNat_toNat c
        simp only [List.cons_append, List.nil_append]
        rw [readBasic.eq_def]
        simp [hvalue, hvalid, hchar]
    · rename_i hcontrol
      have hline : isLineControl c = false := by simp [isLineControl, hcontrol]
      rw [List.cons_append, List.nil_append, readBasic.eq_def]
      simp [hc.1, hc.2, hline]

theorem readBasic_flatMap_escaped (text rest : List Char) :
    readBasic false .none (text.flatMap escaped ++ '"' :: rest) = .ok (text, rest) := by
  induction text with
  | nil =>
    rw [List.flatMap_nil, List.nil_append, readBasic.eq_def]
    rfl
  | cons c text ih =>
    rw [List.flatMap_cons, List.append_assoc, readBasic_escaped, ih]
    rfl

/-- What stands between the marks begins with no mark. -/
theorem head_flatMap_escaped {text : List Char} (h : text ≠ []) :
    ∃ c rest, text.flatMap escaped = c :: rest ∧ c ≠ '"' := by
  cases text with
  | nil => exact absurd rfl h
  | cons d text =>
    rw [List.flatMap_cons]
    unfold escaped
    split
    · exact ⟨'\\', _, rfl, by decide⟩
    · rename_i hd
      split
      · exact ⟨'\\', _, rfl, by decide⟩
      · exact ⟨d, _, rfl, fun hmark => hd (.inl hmark)⟩

/-- A mark that two others do not follow opens a string of one line. -/
theorem readItem_mark {depth : Nat} {body : List Char} (h : ∀ more, body ≠ '"' :: '"' :: more) :
    readItem (depth + 1) ('"' :: body) = asString (readBasicLine body) := by
  unfold readItem
  split
  · rename_i more heq
    exact absurd (List.cons.inj heq).2 (h more)
  · rename_i heq
    rw [← (List.cons.inj heq).2]
  all_goals simp_all

/-- **A string is read back**, at the end of a line. -/
theorem readItem_basicString (depth : Nat) (text : String) (rest : List Char) :
    readItem (depth + 1) ((basicString text).toList ++ '\n' :: rest) =
      .ok (.string text, '\n' :: rest) := by
  have htext : (basicString text).toList ++ '\n' :: rest =
      '"' :: (text.toList.flatMap escaped ++ '"' :: '\n' :: rest) := by
    simp [basicString]
  have hmarks : ∀ more,
      text.toList.flatMap escaped ++ '"' :: '\n' :: rest ≠ '"' :: '"' :: more := by
    intro more
    by_cases hempty : text.toList = []
    · rw [hempty]
      simp
    · obtain ⟨c, chars, hchars, hc⟩ := head_flatMap_escaped hempty
      rw [hchars]
      simp [hc]
  rw [htext, readItem_mark hmarks, readBasicLine, readBasic_flatMap_escaped]
  show Except.ok (Value.string (String.ofList text.toList), '\n' :: rest) = _
  rw [String.ofList_toList]

theorem return_not_mem_basicString (text : String) : '\r' ∉ (basicString text).toList := by
  have hescaped : ∀ c, '\r' ∉ escaped c := by
    intro c hmem
    unfold escaped at hmem
    split at hmem
    · rename_i hc
      rcases hc with rfl | rfl
      · exact absurd hmem (by decide)
      · exact absurd hmem (by decide)
    · split at hmem
      · rename_i hcontrol
        obtain ⟨-, -, hdigits⟩ := paddedHex_control (toNat_lt_of_isControl hcontrol)
        rcases List.mem_cons.mp hmem with heq | hmem
        · exact absurd heq (by decide)
        · rcases List.mem_cons.mp hmem with heq | hmem
          · exact absurd heq (by decide)
          · exact absurd (hdigits _ hmem) (by decide)
      · rename_i hcontrol
        -- the carriage return is a control character itself
        rw [← List.mem_singleton.mp hmem] at hcontrol
        exact hcontrol rfl
  simp [basicString, hescaped]

/-! ## Integers -/

/-- The digits of a number but zero do not begin with a zero. -/
theorem decimal_eq_cons {n : Nat} (h : 0 < n) :
    ∃ d ds, decimal n = d :: ds ∧ d ≠ '0' := by
  induction n using Nat.strongRecOn with
  | ind n ih =>
    by_cases hn : n < 10
    · refine ⟨n.digitChar, [], Nat.toDigits_of_lt_base hn, ?_⟩
      have hdigits : ∀ m < 10, 0 < m → m.digitChar ≠ '0' := by decide
      exact hdigits n hn h
    · obtain ⟨d, ds, hds, hd⟩ := ih (n / 10) (by omega) (by omega)
      refine ⟨d, ds ++ [(n % 10).digitChar], ?_, hd⟩
      rw [decimal, Nat.toDigits_of_base_le (by decide) (by omega)]
      rw [decimal] at hds
      rw [hds, List.cons_append]

/-- What comes after the digits that a text begins with. -/
theorem dropWhile_decimal (n : Nat) (rest : List Char) :
    (decimal n ++ '\n' :: rest).dropWhile Char.isDigit = '\n' :: rest := by
  rw [List.dropWhile_append_of_pos fun c hc => isDigit_of_mem_decimal hc]
  rfl

theorem twoDigits?_eq_some {a b : Char} {n : Nat} (h : twoDigits? a b = some n) :
    a.isDigit = true ∧ b.isDigit = true := by
  unfold twoDigits? at h
  split at h
  · rename_i hdigits
    exact Bool.and_eq_true_iff.mp hdigits
  · cases h

/-- A date has a hyphen after its first digits. -/
theorem readDate?_eq_some {text : List Char} {reading : Date × List Char}
    (h : readDate? text = some reading) : ∃ c more, text = c :: more ∧ c.isDigit = true ∧
      ∃ others, text.dropWhile Char.isDigit = '-' :: others := by
  unfold readDate? at h
  split at h
  · rename_i a b c d e f g i rest
    obtain ⟨century, hcentury, h⟩ := Option.bind_eq_some_iff.mp h
    obtain ⟨year, hyear, -⟩ := Option.bind_eq_some_iff.mp h
    obtain ⟨ha, hb⟩ := twoDigits?_eq_some hcentury
    obtain ⟨hc, hd⟩ := twoDigits?_eq_some hyear
    refine ⟨a, _, rfl, ha, e :: f :: '-' :: g :: i :: rest, ?_⟩
    simp [ha, hb, hc, hd]
  · cases h

/-- A time has a colon after its first digits. -/
theorem readTime?_eq_some {text : List Char} {reading : TimeOfDay × List Char}
    (h : readTime? text = some reading) :
    ∃ others, text.dropWhile Char.isDigit = ':' :: others := by
  unfold readTime? at h
  split at h
  · rename_i a b c d e f rest
    obtain ⟨hour, hhour, -⟩ := Option.bind_eq_some_iff.mp h
    obtain ⟨ha, hb⟩ := twoDigits?_eq_some hhour
    refine ⟨c :: d :: ':' :: e :: f :: rest, ?_⟩
    simp [ha, hb]
  · cases h

theorem readGroups_digits {digits : List Char} (h : ∀ c ∈ digits, c.isDigit = true)
    (rest : List Char) :
    readGroups Char.isDigit (digits ++ '\n' :: rest) = (digits, '\n' :: rest) := by
  induction digits with
  | nil =>
    rw [List.nil_append, readGroups]
    · rfl
    · simp
  | cons c digits ih =>
    have hc : c.isDigit = true := h c List.mem_cons_self
    have hsign : c ≠ '_' := by
      rintro rfl
      exact absurd hc (by decide)
    rw [List.cons_append, readGroups, if_pos hc, ih fun d hd => h d (List.mem_cons_of_mem c hd)]
    intro d more heq
    exact absurd heq hsign

/-- A number is read to its end, and a zero has nothing after it. -/
theorem readWhole?_decimal (n : Nat) (rest : List Char) :
    readWhole? (decimal n ++ '\n' :: rest) = some (decimal n, '\n' :: rest) := by
  rcases Nat.eq_zero_or_pos n with rfl | hn
  · rfl
  · obtain ⟨d, ds, hdigits, hd⟩ := decimal_eq_cons hn
    have hall : ∀ c ∈ d :: ds, c.isDigit = true := by
      rw [← hdigits]
      exact fun c hc => isDigit_of_mem_decimal hc
    have hread : readDigits? Char.isDigit (d :: (ds ++ '\n' :: rest)) =
        some (d :: ds, '\n' :: rest) := by
      rw [readDigits?, if_pos (hall d List.mem_cons_self),
        readGroups_digits fun c hc => hall c (List.mem_cons_of_mem d hc)]
    rw [hdigits, List.cons_append, readWhole?, hread]
    intro more heq
    exact hd (List.cons.inj heq).1

theorem splitSign_integer (k : Int) (rest : List Char) :
    Numeral.splitSign (integer k ++ rest) = (decide (k < 0), decimal k.natAbs ++ rest) := by
  unfold integer
  split
  · rename_i hk
    simp [Numeral.splitSign, hk]
  · rename_i hk
    -- what has no sign begins with a digit
    rcases hdigits : decimal k.natAbs with _ | ⟨d, ds⟩
    · exact absurd hdigits Nat.toDigits_ne_nil
    · have hd : d.isDigit = true := isDigit_of_mem_decimal (hdigits ▸ List.mem_cons_self)
      rw [List.cons_append, Numeral.splitSign]
      · simp [hk]
      · intro more heq
        rw [(List.cons.inj heq).1] at hd
        exact absurd hd (by decide)
      · intro more heq
        rw [(List.cons.inj heq).1] at hd
        exact absurd hd (by decide)

theorem readDecimal?_integer {k : Int} (h : IsShort k) (rest : List Char) :
    readDecimal? (integer k ++ '\n' :: rest) = some (.ok (.integer k, '\n' :: rest)) := by
  have hdigits : ¬ digitLimit < (decimal k.natAbs).length := Nat.not_lt.mpr h
  have hvalue : (if decide (k < 0) = true then -((decimalValue (decimal k.natAbs) : Nat) : Int)
      else decimalValue (decimal k.natAbs)) = k := by
    rw [decimalValue_decimal]
    by_cases hk : k < 0
    · rw [if_pos (decide_eq_true hk)]
      omega
    · rw [if_neg (by simpa using hk)]
      omega
  have hfraction : readFractionDigits? ('\n' :: rest) = none := rfl
  have hexponent : readExponent? ('\n' :: rest) = none := rfl
  unfold readDecimal?
  simp only [splitSign_integer, readWhole?_decimal, hfraction, hexponent, Option.bind_eq_bind,
    Option.bind_some, Option.getD_none, Option.isNone_none, Bool.and_self, if_true, if_neg hdigits,
    hvalue]

/-- What an integer begins with: a sign, or a digit. -/
theorem integer_cases (k : Int) : (∃ ds, integer k = '-' :: ds) ∨ integer k = ['0'] ∨
    ∃ d ds, integer k = d :: ds ∧ d.isDigit = true ∧ d ≠ '0' := by
  unfold integer
  split
  · exact .inl ⟨_, rfl⟩
  · rcases Nat.eq_zero_or_pos k.natAbs with hk | hk
    · rw [hk]
      exact .inr (.inl rfl)
    · obtain ⟨d, ds, hdigits, hd⟩ := decimal_eq_cons hk
      exact .inr (.inr ⟨d, ds, hdigits, isDigit_of_mem_decimal (hdigits ▸ List.mem_cons_self), hd⟩)

theorem readBased?_integer (k : Int) (rest : List Char) :
    readBased? (integer k ++ '\n' :: rest) = none := by
  rcases integer_cases k with ⟨ds, hk⟩ | hk | ⟨d, ds, hk, -, hd⟩
  · rw [hk]
    rfl
  · rw [hk]
    rfl
  · rw [hk, List.cons_append]
    unfold readBased?
    split
    · rename_i heq
      exact absurd (List.cons.inj heq).1 hd
    · rename_i heq
      exact absurd (List.cons.inj heq).1 hd
    · rename_i heq
      exact absurd (List.cons.inj heq).1 hd
    · rfl

/-- After the digits that the text of an integer begins with there is the end of the line, or
the integer has a sign, before which there are none. -/
theorem dropWhile_integer (k : Int) (rest : List Char) :
    (integer k ++ '\n' :: rest).dropWhile Char.isDigit = '\n' :: rest ∨
      ∃ ds, integer k ++ '\n' :: rest = '-' :: ds := by
  unfold integer
  split
  · exact .inr ⟨_, rfl⟩
  · exact .inl (dropWhile_decimal _ rest)

theorem readCalendar?_integer (k : Int) (rest : List Char) :
    readCalendar? (integer k ++ '\n' :: rest) = none := by
  have hdate : readDate? (integer k ++ '\n' :: rest) = none := by
    rw [Option.eq_none_iff_forall_ne_some]
    intro reading h
    obtain ⟨c, more, htext, hc, others, hothers⟩ := readDate?_eq_some h
    rcases dropWhile_integer k rest with hdrop | ⟨ds, hsign⟩
    · rw [hdrop] at hothers
      exact absurd (List.cons.inj hothers).1 (by decide)
    · rw [hsign] at htext
      rw [← (List.cons.inj htext).1] at hc
      exact absurd hc (by decide)
  unfold readCalendar?
  rw [hdate]
  rfl

theorem readTime?_integer (k : Int) (rest : List Char) :
    readTime? (integer k ++ '\n' :: rest) = none := by
  rw [Option.eq_none_iff_forall_ne_some]
  intro reading h
  obtain ⟨others, hothers⟩ := readTime?_eq_some h
  rcases dropWhile_integer k rest with hdrop | ⟨ds, hsign⟩
  · rw [hdrop] at hothers
    exact absurd (List.cons.inj hothers).1 (by decide)
  · rw [hsign] at hothers
    exact absurd (List.cons.inj hothers).1 (by decide)

theorem readItem_scalar {depth : Nat} {c : Char} {more : List Char}
    (h : c = '-' ∨ c.isDigit = true) :
    readItem (depth + 1) (c :: more) = readScalar (c :: more) := by
  have hother : ∀ {d : Char}, (d ≠ '-' ∧ d.isDigit = false) → c ≠ d := by
    rintro d ⟨hsign, hdigit⟩ rfl
    rcases h with h | h
    · exact hsign h
    · rw [hdigit] at h
      cases h
  unfold readItem
  split
  case h_9 => rfl
  all_goals
    rename_i heq
    exact absurd (List.cons.inj heq).1 (hother (by decide))

/-- **An integer is read back**, at the end of a line. -/
theorem readItem_integer (depth : Nat) {k : Int} (h : IsShort k) (rest : List Char) :
    readItem (depth + 1) (integer k ++ '\n' :: rest) = .ok (.integer k, '\n' :: rest) := by
  have hscalar : readScalar (integer k ++ '\n' :: rest) = .ok (.integer k, '\n' :: rest) := by
    unfold readScalar
    rw [readCalendar?_integer, readTime?_integer, readBased?_integer, readDecimal?_integer h]
  rw [← hscalar]
  rcases integer_cases k with ⟨ds, hk⟩ | hk | ⟨d, ds, hk, hd, -⟩
  · rw [hk]
    exact readItem_scalar (.inl rfl)
  · rw [hk]
    exact readItem_scalar (.inr rfl)
  · rw [hk]
    exact readItem_scalar (.inr hd)

end ProviderBindings.Toml
