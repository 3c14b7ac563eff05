/-! # Powers of two and ten

The two bases between which numbers are converted. -/
namespace ProviderBindings.Power

/-- Two to the power of `n`. -/
def two (n : Nat) : Nat := Nat.pow 2 n

/-- Ten to the power of `n`. -/
def ten (n : Nat) : Nat := Nat.pow 10 n

@[simp] theorem two_zero : two 0 = 1 := rfl

@[simp] theorem ten_zero : ten 0 = 1 := rfl

end ProviderBindings.Power
