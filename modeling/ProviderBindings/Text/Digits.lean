/-! # Numbers in digits

The digits of natural numbers and integers, and texts padded with zeros on the
left. -/
namespace ProviderBindings.Text

/-- `text` with zeros before it, up to `width` characters. -/
def zeroPadded (width : Nat) (text : List Char) : List Char :=
  List.replicate (width - text.length) '0' ++ text

/-- The decimal digits of `n`. -/
def decimal (n : Nat) : List Char := Nat.toDigits 10 n

/-- The decimal digits of `n`, at least `width` of them. -/
def paddedDecimal (width n : Nat) : List Char := zeroPadded width (decimal n)

/-- The hexadecimal digits of `n` in small letters, at least `width` of them. -/
def paddedHex (width n : Nat) : List Char := zeroPadded width (Nat.toDigits 16 n)

/-- An integer in decimal, with a sign only when it is negative. -/
def integer (n : Int) : List Char :=
  if n < 0 then '-' :: decimal n.natAbs else decimal n.natAbs

/-- The value of a sequence of decimal digits. -/
def decimalValue (digits : List Char) : Nat := Nat.ofDigitChars 10 digits 0

/-- The value of a hexadecimal digit, in capital or small letters. -/
def hexDigit? (c : Char) : Option Nat :=
  if '0' ≤ c ∧ c ≤ '9' then some (c.toNat - 48)
  else if 'a' ≤ c ∧ c ≤ 'f' then some (c.toNat - 87)
  else if 'A' ≤ c ∧ c ≤ 'F' then some (c.toNat - 55)
  else none

/-- The value of a sequence of digits in base `base`, capital or small; a character
that is no digit counts as zero. -/
def digitsValue (base : Nat) (digits : List Char) : Nat :=
  digits.foldl (fun value c => base * value + (hexDigit? c).getD 0) 0

/-- What is read back from the digits of a number is the number. -/
@[simp] theorem decimalValue_decimal (n : Nat) : decimalValue (decimal n) = n :=
  Nat.ofDigitChars_toDigits (by decide) (by decide)

theorem isDigit_of_mem_decimal {n : Nat} {c : Char} (h : c ∈ decimal n) : c.isDigit = true :=
  Nat.isDigit_of_mem_toDigits (by decide) (by decide) h

/-- The text of an integer holds digits and perhaps a sign, and nothing else. -/
theorem not_mem_integer {c : Char} (hdigit : c.isDigit = false) (hsign : c ≠ '-') (k : Int) :
    c ∉ integer k := by
  have hdecimal : c ∉ decimal k.natAbs := by
    intro hmem
    rw [isDigit_of_mem_decimal hmem] at hdigit
    cases hdigit
  unfold integer
  split
  · rw [List.mem_cons, not_or]
    exact ⟨hsign, hdecimal⟩
  · exact hdecimal

end ProviderBindings.Text
