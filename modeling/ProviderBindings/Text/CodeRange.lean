/-! # Ranges of code points

Classes of characters are given as lists of ranges. -/
namespace ProviderBindings.Text

/-- The code points from `first` to `last`, both included. -/
structure CodeRange where
  first : Nat
  last : Nat

namespace CodeRange

/-- Whether the range holds the code point of `c`. -/
def holds (r : CodeRange) (c : Char) : Bool :=
  decide (r.first ≤ c.toNat) && decide (c.toNat ≤ r.last)

/-- Whether one of the ranges holds the code point of `c`. -/
def covers (ranges : List CodeRange) (c : Char) : Bool := ranges.any (·.holds c)

@[simp] theorem holds_iff (r : CodeRange) (c : Char) :
    r.holds c = true ↔ r.first ≤ c.toNat ∧ c.toNat ≤ r.last := by
  simp [holds]

theorem covers_iff (ranges : List CodeRange) (c : Char) :
    covers ranges c = true ↔ ∃ r ∈ ranges, r.first ≤ c.toNat ∧ c.toNat ≤ r.last := by
  simp [covers]

end CodeRange

end ProviderBindings.Text
