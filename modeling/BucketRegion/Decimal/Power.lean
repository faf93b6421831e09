/-!
# Powers of two and ten

The two bases of floating-point numbers and of their text, as whole numbers.
-/

set_option autoImplicit false

namespace BucketRegion.Decimal

/-- The `n`-th power of two. -/
def twoTo (n : Nat) : Nat := Nat.pow 2 n

/-- The `n`-th power of ten. -/
def tenTo (n : Nat) : Nat := Nat.pow 10 n

@[simp] theorem tenTo_zero : tenTo 0 = 1 := rfl

theorem tenTo_succ (n : Nat) : tenTo (n + 1) = tenTo n * 10 := rfl

theorem tenTo_pos (n : Nat) : 0 < tenTo n := Nat.pow_pos (by decide)

end BucketRegion.Decimal
