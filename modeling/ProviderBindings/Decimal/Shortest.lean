import ProviderBindings.Decimal.Binary64
import ProviderBindings.Text.Digits

/-! # The fewest digits that read back

Every positive double-precision number is the centre of an interval of reals that
round to it; the ends belong to the interval when the mantissa is even. For one
digit, two digits and so on, the number lies between two neighbours on the grid of
decimal numbers with so many digits. The first grid that has a neighbour inside
the interval is taken, and of two such neighbours the nearer one, the even one
when both are equally near. Seventeen digits always suffice. -/
namespace ProviderBindings

/-- The decimal number `d.ddd * 10 ^ exponent` with the given digits. -/
structure Scientific where
  digits : List Char
  exponent : Int
  deriving DecidableEq, Repr

namespace Shortest

/-- More decimal places than the smallest number has leading zeros. -/
def places : Nat := 400

/-- The place of the leading digit of `mantissa * 2 ^ exponent`: the power of ten
that it counts. -/
def leadingPlace (mantissa : Nat) (exponent : Int) : Int :=
  let scaled :=
    if exponent < 0 then mantissa * Power.ten places / Power.two (-exponent).toNat
    else mantissa * Power.two exponent.toNat * Power.ten places
  ((Text.decimal scaled).length : Int) - 1 - places

/-- Factors that bring multiples of `2 ^ binary` and of `10 ^ decimal` to a common
scale: `x * 2 ^ binary` and `y * 10 ^ decimal` compare as `x * fst` and `y * snd`. -/
def scales (binary decimal : Int) : Nat × Nat :=
  (Power.two binary.toNat * Power.ten (-decimal).toNat,
    Power.ten decimal.toNat * Power.two (-binary).toNat)

/-- The neighbour of `mantissa * 2 ^ exponent` on the grid of multiples of
`10 ^ place` that rounds to it, if there is one. -/
def onGrid? (mantissa : Nat) (exponent place : Int) : Option Nat :=
  let (two, ten) := scales (exponent - 2) place
  let quarters := 4 * mantissa
  let below :=
    if mantissa = Power.two (Binary64.precision - 1) ∧ Binary64.leastExponent < exponent then 1
    else 2
  let inside (n : Nat) : Bool :=
    let point := n * ten
    let low := (quarters - below) * two
    let high := (quarters + 2) * two
    if mantissa % 2 = 0 then decide (low ≤ point ∧ point ≤ high)
    else decide (low < point ∧ point < high)
  let down := quarters * two / ten
  let rest := quarters * two % ten
  match inside down, inside (down + 1) with
  | true, true =>
    if 2 * rest < ten then some down
    else if 2 * rest > ten then some (down + 1)
    else some (down + down % 2)
  | true, false => some down
  | false, true => some (down + 1)
  | false, false => none

/-- The first of `count` grids, from the multiples of `10 ^ place` on to finer ones,
that has a neighbour, with its place. -/
def firstGrid (mantissa : Nat) (exponent : Int) : Nat → Int → Nat × Int
  | 0, place => (0, place)
  | count + 1, place =>
    match onGrid? mantissa exponent place with
    | some n => (n, place)
    | none => firstGrid mantissa exponent count (place - 1)

/-- Digits without the zeros at their end. -/
def trimZeros (digits : List Char) : List Char :=
  (digits.reverse.dropWhile (· == '0')).reverse

end Shortest

/-- The fewest digits that read back as `mantissa * 2 ^ exponent`, and their place. -/
def shortest (mantissa : Nat) (exponent : Int) : Scientific :=
  if mantissa = 0 then ⟨['0'], 0⟩
  else
    let (n, place) :=
      Shortest.firstGrid mantissa exponent 17 (Shortest.leadingPlace mantissa exponent)
    let digits := Text.decimal n
    ⟨Shortest.trimZeros digits, place + digits.length - 1⟩

end ProviderBindings
