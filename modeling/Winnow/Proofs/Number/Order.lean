import Winnow.Number.Binary64
import Mathlib.Algebra.Order.Field.Power
import Mathlib.Algebra.Order.Field.Rat
import Mathlib.Order.Compare

/-!
# Winnow.Proofs.Number.Order — doubles in the order of what they stand for

A finite double stands for a rational number (`Binary64.value`). Doubles are compared without ever
leaving the integers: both mantissas are brought to the lesser of the two exponents, and signs decide
the rest. That this is the order of the rational numbers (`Binary64.compare?_finite`) is what makes
it total and transitive, for doubles of different exponents and for integers among doubles.
-/

namespace Winnow

/-- What keeps the order of numbers keeps how they compare. -/
theorem compare_eq_of_strictMono {α β : Type} [LinearOrder α] [LinearOrder β] {f : α → β}
    (hf : StrictMono f) (a b : α) : compare a b = compare (f a) (f b) := by
  rw [← cmp_eq_compare, ← cmp_eq_compare, hf.cmp_map_eq]

/-- What turns the order of numbers around turns around how they compare. -/
theorem compare_eq_of_strictAnti {α β : Type} [LinearOrder α] [LinearOrder β] {f : α → β}
    (hf : StrictAnti f) (a b : α) : compare a b = compare (f b) (f a) := by
  rw [← cmp_eq_compare, ← cmp_eq_compare, hf.cmp_map_eq]

namespace Binary64

/-- The number that a finite double stands for. -/
def value : Binary64 → ℚ
  | finite negative m q => if negative then -(m * 2 ^ q) else m * 2 ^ q
  | _ => 0

theorem magnitude_nonneg (m : ℕ) (q : ℤ) : (0 : ℚ) ≤ m * 2 ^ q :=
  mul_nonneg (Nat.cast_nonneg m) (zpow_nonneg zero_le_two q)

theorem magnitude_pos {m : ℕ} (h : m ≠ 0) (q : ℤ) : (0 : ℚ) < m * 2 ^ q :=
  mul_pos (Nat.cast_pos.mpr (Nat.pos_of_ne_zero h)) (zpow_pos two_pos q)

/-- A magnitude at a lesser exponent. -/
theorem magnitude_eq (m : ℕ) {q e : ℤ} (h : e ≤ q) :
    (m : ℚ) * 2 ^ q = (m * Number.pow2 (q - e).toNat : ℕ) * 2 ^ e := by
  have hPower : ((Number.pow2 (q - e).toNat : ℕ) : ℚ) = 2 ^ (q - e) := by
    have hPow : Number.pow2 (q - e).toNat = 2 ^ (q - e).toNat := rfl
    rw [hPow, Nat.cast_pow, Nat.cast_ofNat, ← zpow_natCast, Int.toNat_of_nonneg (by omega)]
  rw [Nat.cast_mul, hPower, mul_assoc, ← zpow_add₀ two_ne_zero, sub_add_cancel]

theorem compareMagnitude_eq (m₁ : ℕ) (q₁ : ℤ) (m₂ : ℕ) (q₂ : ℤ) :
    compareMagnitude m₁ q₁ m₂ q₂ = compare ((m₁ : ℚ) * 2 ^ q₁) (m₂ * 2 ^ q₂) := by
  have hMono : StrictMono fun n : ℕ => (n : ℚ) * 2 ^ min q₁ q₂ := by
    intro a b hab
    exact mul_lt_mul_of_pos_right (Nat.cast_lt.mpr hab) (zpow_pos two_pos _)
  rw [magnitude_eq m₁ (min_le_left q₁ q₂), magnitude_eq m₂ (min_le_right q₁ q₂)]
  exact compare_eq_of_strictMono hMono _ _

/-- **Finite doubles** are compared as the numbers that they stand for. -/
theorem compare?_finite (s₁ s₂ : Bool) (m₁ m₂ : ℕ) (q₁ q₂ : ℤ) :
    compare? (finite s₁ m₁ q₁) (finite s₂ m₂ q₂) =
      some (compare (finite s₁ m₁ q₁).value (finite s₂ m₂ q₂).value) := by
  by_cases hZero : m₁ = 0 ∧ m₂ = 0
  · obtain ⟨rfl, rfl⟩ := hZero
    simp [compare?, value]
  · have hNotBoth : ¬ ((m₁ == 0 && m₂ == 0) = true) := by
      simpa using hZero
    have hSome : m₁ ≠ 0 ∨ m₂ ≠ 0 := not_and_or.mp hZero
    have hFirst := magnitude_nonneg m₁ q₁
    have hSecond := magnitude_nonneg m₂ q₂
    refine (if_neg hNotBoth).trans ?_
    cases s₁ with
    | false =>
      cases s₂ with
      | false => exact congrArg some (compareMagnitude_eq m₁ q₁ m₂ q₂)
      | true =>
        -- one of the magnitudes is positive, so the signs tell them apart
        have hLt : (finite true m₂ q₂).value < (finite false m₁ q₁).value := by
          simp only [value, if_true, Bool.false_eq_true, if_false]
          rcases hSome with h | h
          · exact lt_of_le_of_lt (neg_nonpos.mpr hSecond) (magnitude_pos h q₁)
          · exact lt_of_lt_of_le (neg_neg_of_pos (magnitude_pos h q₂)) hFirst
        rw [compare_gt_iff_gt.mpr hLt]
    | true =>
      cases s₂ with
      | false =>
        have hLt : (finite true m₁ q₁).value < (finite false m₂ q₂).value := by
          simp only [value, if_true, Bool.false_eq_true, if_false]
          rcases hSome with h | h
          · exact lt_of_lt_of_le (neg_neg_of_pos (magnitude_pos h q₁)) hSecond
          · exact lt_of_le_of_lt (neg_nonpos.mpr hFirst) (magnitude_pos h q₂)
        rw [compare_lt_iff_lt.mpr hLt]
      | true =>
        have hAnti : StrictAnti fun x : ℚ => -x := fun _ _ h => neg_lt_neg h
        exact congrArg some
          ((compareMagnitude_eq m₂ q₂ m₁ q₁).trans (compare_eq_of_strictAnti hAnti _ _))

theorem value_exactInt (n : ℤ) : (exactInt n).value = n := by
  have hMagnitude : ((n.natAbs : ℕ) : ℚ) * 2 ^ (0 : ℤ) = |(n : ℚ)| := by
    rw [zpow_zero, mul_one, Nat.cast_natAbs, Int.cast_abs]
  rw [exactInt, value, hMagnitude]
  by_cases hNegative : n < 0
  · rw [if_pos (decide_eq_true hNegative), abs_of_neg (Int.cast_lt_zero.mpr hNegative), neg_neg]
  · rw [if_neg (by simpa using hNegative),
      abs_of_nonneg (Int.cast_nonneg (not_lt.mp hNegative))]

/-- **An integer and a finite double** are compared as the numbers that they stand for. -/
theorem compareInt?_finite (n : ℤ) (s : Bool) (m : ℕ) (q : ℤ) :
    compareInt? n (finite s m q) = some (compare (n : ℚ) (finite s m q).value) := by
  rw [← value_exactInt n]
  exact compare?_finite _ _ _ _ _ _

end Binary64

end Winnow
