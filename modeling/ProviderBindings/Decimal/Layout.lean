import ProviderBindings.Decimal.Shortest

/-! # How a number with a fraction is written

A number has the fewest digits that read back. It is written in positions when its
leading digit is not too far from the point, with at least one digit after the
point, and with an exponent otherwise. -/
namespace ProviderBindings

/-- The choices of a decimal format: the places of the leading digit that are
written in positions, from `least` up to but not including `bound`, and the least
number of digits of an exponent. -/
structure Layout where
  least : Int
  bound : Int
  exponentDigits : Nat

namespace Layout

/-- From four places after the point to sixteen before it a number is written in
positions; an exponent has two digits or more. -/
def standard : Layout := ⟨-4, 16, 2⟩

/-- Digits around a point: `digits` with the leading one at `place`. -/
def positional (digits : List Char) (place : Int) : List Char :=
  if place < 0 then '0' :: '.' :: List.replicate (-place - 1).toNat '0' ++ digits
  else
    let whole := place.toNat + 1
    let shown := digits ++ List.replicate (whole + 1 - digits.length) '0'
    shown.take whole ++ '.' :: shown.drop whole

/-- Digits and a power of ten. -/
def scientific (exponentDigits : Nat) (digits : List Char) (place : Int) : List Char :=
  let fraction :=
    match digits.drop 1 with
    | [] => []
    | rest => '.' :: rest
  digits.take 1 ++ fraction ++ 'e' :: (if place < 0 then '-' else '+') ::
    Text.paddedDecimal exponentDigits place.natAbs

/-- The text of a positive number or zero. -/
def unsigned (layout : Layout) (s : Scientific) : List Char :=
  if layout.least ≤ s.exponent ∧ s.exponent < layout.bound then positional s.digits s.exponent
  else scientific layout.exponentDigits s.digits s.exponent

end Layout

/-- The text of a double-precision number. -/
def Binary64.text (layout : Layout) : Binary64 → List Char
  | .nan => ['n', 'a', 'n']
  | .infinite negative => if negative then ['-', 'i', 'n', 'f'] else ['i', 'n', 'f']
  | .finite negative mantissa exponent =>
    let body := layout.unsigned (shortest mantissa exponent)
    if negative then '-' :: body else body

end ProviderBindings
