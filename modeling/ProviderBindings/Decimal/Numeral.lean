import ProviderBindings.Decimal.Binary64
import ProviderBindings.Text.Digits

/-! # Decimal numerals

The decimal spelling of a number with a fraction, such as `-6.25e-3`, and the
double-precision number nearest to it. A numeral is read exactly, whatever its
length; only then is it rounded, once. -/
namespace ProviderBindings

/-- The decimal number `coefficient * 10 ^ exponent`, with a sign. -/
structure Numeral where
  negative : Bool
  coefficient : Nat
  exponent : Int
  deriving DecidableEq, Repr

namespace Numeral

/-- A sign, if there is one, and what follows it. -/
def splitSign : List Char → Bool × List Char
  | '-' :: rest => (true, rest)
  | '+' :: rest => (false, rest)
  | text => (false, text)

/-- The exponent that a text spells: nothing, or `e` and an integer. -/
def exponent? : List Char → Option Int
  | [] => some 0
  | c :: rest =>
    let (negative, digits) := splitSign rest
    if (c = 'e' ∨ c = 'E') ∧ digits ≠ [] ∧ digits.all Char.isDigit then
      some (if negative then -(Text.decimalValue digits : Int) else Text.decimalValue digits)
    else none

/-- The numeral that a text spells: digits, among them a point, and an exponent. -/
def ofChars? (text : List Char) : Option Numeral :=
  let (negative, text) := splitSign text
  let (whole, text) := text.span Char.isDigit
  let (fraction, text) :=
    match text with
    | '.' :: rest => rest.span Char.isDigit
    | _ => ([], text)
  if whole = [] ∧ fraction = [] then none
  else
    (exponent? text).map fun exponent =>
      ⟨negative, Text.decimalValue (whole ++ fraction), exponent - fraction.length⟩

/-- Decimal exponents beyond which a number is past the largest one, or closer to
zero than to the smallest. -/
def range : Int := 400

/-- The double-precision number nearest to a numeral. -/
def toBinary64 (n : Numeral) : Binary64 :=
  let magnitude : Int := (Text.decimal n.coefficient).length + n.exponent
  if n.coefficient = 0 ∨ magnitude < -range then .zero n.negative
  else if range < magnitude then .infinite n.negative
  else if n.exponent < 0 then .ofQuotient n.negative n.coefficient (Power.ten (-n.exponent).toNat)
  else .ofQuotient n.negative (n.coefficient * Power.ten n.exponent.toNat) 1

end Numeral

/-- The number that a text spells: a numeral, or `inf` or `nan` after a sign. -/
def Binary64.ofChars? (text : List Char) : Option Binary64 :=
  let (negative, word) := Numeral.splitSign text
  if word = ['i', 'n', 'f'] then some (.infinite negative)
  else if word = ['n', 'a', 'n'] then some .nan
  else (Numeral.ofChars? text).map Numeral.toBinary64

end ProviderBindings
