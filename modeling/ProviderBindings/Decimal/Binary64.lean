import ProviderBindings.Decimal.Power

/-! # Double-precision numbers

A number of the binary format of 64 bits, by its value: not a number, an infinity,
or a sign with `mantissa * 2 ^ exponent`. A finite number is in its one normal
form: the mantissa has 53 bits, or fewer when the exponent is the least one. So
two finite numbers are the same exactly when their parts are, and the two zeros
differ by their sign.

Rounding is exact arithmetic on naturals: a quotient goes to the nearest mantissa,
and a quotient halfway between two goes to the even one. -/
namespace ProviderBindings

/-- A double-precision number. -/
inductive Binary64
  | nan
  | infinite (negative : Bool)
  | finite (negative : Bool) (mantissa : Nat) (exponent : Int)
  deriving DecidableEq, Repr

namespace Binary64

/-- The bits of a full mantissa. -/
def precision : Nat := 53

/-- The exponent of the smallest numbers. -/
def leastExponent : Int := -1074

/-- The exponent of the largest numbers. -/
def greatestExponent : Int := 971

/-- Zero, with a sign. -/
def zero (negative : Bool) : Binary64 := .finite negative 0 leastExponent

/-- The integer nearest to `num / den`, the even one of two. -/
def roundQuotient (num den : Nat) : Nat :=
  let quotient := num / den
  let rest := num % den
  if 2 * rest < den then quotient
  else if 2 * rest > den then quotient + 1
  else quotient + quotient % 2

/-- The exponent at which `num / den` has a mantissa of 53 bits. -/
def fullExponent (num den : Nat) : Int :=
  let bits : Int := (num.log2 : Int) - den.log2
  let reached :=
    if bits < 0 then den ≤ num * Power.two (-bits).toNat
    else den * Power.two bits.toNat ≤ num
  (if reached then bits else bits - 1) - (precision - 1 : Nat)

/-- The number nearest to `num / den`, for positive `num` and `den`. -/
def ofQuotient (negative : Bool) (num den : Nat) : Binary64 :=
  let exponent := max (fullExponent num den) leastExponent
  let mantissa :=
    if exponent < 0 then roundQuotient (num * Power.two (-exponent).toNat) den
    else roundQuotient num (den * Power.two exponent.toNat)
  let (mantissa, exponent) :=
    if mantissa = Power.two precision then (Power.two (precision - 1), exponent + 1)
    else (mantissa, exponent)
  if greatestExponent < exponent then .infinite negative else .finite negative mantissa exponent

end Binary64

end ProviderBindings
