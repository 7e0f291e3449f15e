/-!
# Winnow.Number.Power — powers of the two bases

Doubles count in powers of two and their texts in powers of ten.
-/

namespace Winnow.Number

/-- A power of two. -/
def pow2 (n : Nat) : Nat := Nat.pow 2 n

/-- A power of ten. -/
def pow10 (n : Nat) : Nat := Nat.pow 10 n

theorem pow2_succ (n : Nat) : pow2 (n + 1) = pow2 n * 2 := rfl

@[simp] theorem pow10_zero : pow10 0 = 1 := rfl

theorem pow2_pos (n : Nat) : 0 < pow2 n := Nat.pow_pos (by decide)

theorem pow10_pos (n : Nat) : 0 < pow10 n := Nat.pow_pos (by decide)

end Winnow.Number
