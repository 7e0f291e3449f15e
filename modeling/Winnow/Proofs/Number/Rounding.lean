import Winnow.Proofs.Number.Order
import Mathlib.Algebra.Order.Floor.Ring
import Mathlib.Data.Rat.Floor
import Mathlib.Tactic.FieldSimp
import Mathlib.Tactic.Linarith
import Mathlib.Tactic.Ring

/-!
# Winnow.Proofs.Number.Rounding — quotients as doubles

`Binary64.round` brings a quotient of natural numbers to a mantissa at the exponent where it has 53
bits, and rounds the mantissa to the nearest integer.

* The exponent is right: unless it is the least one, the quotient lies between the powers of two of
  53 bits (`zpow_exponentFor_le`, `lt_zpow_exponentFor`).
* The mantissa is off by at most one half (`abs_mantissaAt_sub_le`).

A quotient whose numerator has at most 53 bits keeps its place among the integers: it is not rounded
beyond an integer above it (`value_round_le`), nor down to an integer below it (`lt_value_round`).
The exception is a quotient that comes to nothing, because it is not more than half of the least
positive double (`value_round_eq_zero_iff`). So the integer above the double is the one above the
quotient, or zero (`ceil_value_round`).
-/

namespace Winnow.Binary64

open Winnow.Number (pow2)

variable {num den n d m : ℕ} {e q : ℤ}

/-! ## Powers of two -/

theorem pow2_eq (n : ℕ) : pow2 n = 2 ^ n := rfl

theorem cast_pow2_toNat (h : 0 ≤ e) : ((pow2 e.toNat : ℕ) : ℚ) = 2 ^ e := by
  rw [pow2_eq, Nat.cast_pow, Nat.cast_ofNat, ← zpow_natCast, Int.toNat_of_nonneg h]

/-- A quotient at an exponent, as the quotient of natural numbers that it is rounded as. -/
theorem quotient_eq (num : ℕ) (den : ℕ) (e : ℤ) :
    (num : ℚ) / den / 2 ^ e = if 0 ≤ e then (num : ℚ) / (den * pow2 e.toNat : ℕ)
      else ((num * pow2 (-e).toNat : ℕ) : ℚ) / den := by
  split
  · rename_i h
    rw [Nat.cast_mul, cast_pow2_toNat h, div_div]
  · rename_i h
    rw [Nat.cast_mul, cast_pow2_toNat (by omega : 0 ≤ -e), zpow_neg, div_right_comm,
      div_eq_mul_inv _ (2 ^ e)]

/-! ## The exponent -/

theorem reaches_iff (hDen : 0 < den) :
    (if 0 ≤ e then den * pow2 e.toNat ≤ num else den ≤ num * pow2 (-e).toNat) ↔
      (2 : ℚ) ^ e ≤ num / den := by
  have hDenQ : (0 : ℚ) < den := Nat.cast_pos.mpr hDen
  have hPow : (0 : ℚ) < 2 ^ e := zpow_pos two_pos e
  rw [← one_le_div hPow, quotient_eq]
  split
  · have hPos : (0 : ℚ) < (den * pow2 e.toNat : ℕ) :=
      Nat.cast_pos.mpr (Nat.mul_pos hDen (Number.pow2_pos _))
    rw [one_le_div hPos, Nat.cast_le]
  · rw [one_le_div hDenQ, Nat.cast_le]

/-- The logarithms of both numbers bound the quotient. -/
theorem quotient_bounds (hNum : 0 < num) (hDen : 0 < den) :
    (2 : ℚ) ^ ((Nat.log2 num : ℤ) - Nat.log2 den - 1) ≤ num / den ∧
      (num : ℚ) / den < 2 ^ ((Nat.log2 num : ℤ) - Nat.log2 den + 1) := by
  have hDenQ : (0 : ℚ) < den := Nat.cast_pos.mpr hDen
  have hLower {n : ℕ} (h : 0 < n) : (2 : ℚ) ^ (Nat.log2 n : ℤ) ≤ n := by
    rw [zpow_natCast]
    exact_mod_cast Nat.log2_self_le h.ne'
  have hUpper (n : ℕ) : (n : ℚ) < 2 ^ ((Nat.log2 n : ℤ) + 1) := by
    have h : n < 2 ^ (Nat.log2 n + 1) := Nat.lt_log2_self
    exact_mod_cast h
  constructor
  · rw [le_div_iff₀ hDenQ, sub_sub]
    calc (2 : ℚ) ^ ((Nat.log2 num : ℤ) - (Nat.log2 den + 1)) * den
        ≤ 2 ^ ((Nat.log2 num : ℤ) - (Nat.log2 den + 1)) * 2 ^ ((Nat.log2 den : ℤ) + 1) :=
          mul_le_mul_of_nonneg_left (hUpper den).le (zpow_nonneg zero_le_two _)
      _ = 2 ^ (Nat.log2 num : ℤ) := by rw [← zpow_add₀ two_ne_zero, sub_add_cancel]
      _ ≤ num := hLower hNum
  · rw [div_lt_iff₀ hDenQ]
    calc (num : ℚ) < 2 ^ ((Nat.log2 num : ℤ) + 1) := hUpper num
      _ = 2 ^ ((Nat.log2 num : ℤ) - Nat.log2 den + 1) * 2 ^ (Nat.log2 den : ℤ) := by
          rw [← zpow_add₀ two_ne_zero]
          congr 1
          omega
      _ ≤ 2 ^ ((Nat.log2 num : ℤ) - Nat.log2 den + 1) * den :=
          mul_le_mul_of_nonneg_left (hLower hDen) (zpow_nonneg zero_le_two _)

theorem exponentFor_eq (hDen : 0 < den) :
    exponentFor num den = max minExponent ((Nat.log2 num : ℤ) - Nat.log2 den -
      if (2 : ℚ) ^ ((Nat.log2 num : ℤ) - Nat.log2 den) ≤ num / den then 52 else 53) := by
  unfold exponentFor
  dsimp only
  rw [if_congr (reaches_iff hDen) rfl rfl]
  split <;> rfl

theorem minExponent_le_exponentFor (num den : ℕ) : minExponent ≤ exponentFor num den :=
  le_max_left _ _

/-- A quotient has 53 bits at its exponent, unless that is the least one. -/
theorem zpow_exponentFor_le (hNum : 0 < num) (hDen : 0 < den)
    (h : minExponent < exponentFor num den) :
    (2 : ℚ) ^ (exponentFor num den + 52) ≤ num / den := by
  rw [exponentFor_eq hDen] at h ⊢
  rw [max_eq_right (le_of_lt ((lt_max_iff.mp h).resolve_left (lt_irrefl _)))]
  split
  · rename_i hReaches
    rwa [sub_add_cancel]
  · have hPlaces :
        (Nat.log2 num : ℤ) - Nat.log2 den - 53 + 52 = Nat.log2 num - Nat.log2 den - 1 := by omega
    rw [hPlaces]
    exact (quotient_bounds hNum hDen).1

/-- A quotient has no more than 53 bits at its exponent. -/
theorem lt_zpow_exponentFor (hNum : 0 < num) (hDen : 0 < den) :
    (num : ℚ) / den < 2 ^ (exponentFor num den + 53) := by
  have hGrows {a b : ℤ} (h : a ≤ b) : (2 : ℚ) ^ a ≤ 2 ^ b := zpow_le_zpow_right₀ one_le_two h
  rw [exponentFor_eq hDen]
  split
  · exact lt_of_lt_of_le (quotient_bounds hNum hDen).2 (hGrows (by omega))
  · rename_i hReaches
    exact lt_of_lt_of_le (not_le.mp hReaches) (hGrows (by omega))

/-! ## The mantissa -/

/-- A quotient is off by at most one half when it is rounded. -/
theorem abs_roundDiv_sub_le (n : ℕ) (hd : 0 < d) : |(roundDiv n d : ℚ) - n / d| ≤ 1 / 2 := by
  have hdQ : (0 : ℚ) < d := Nat.cast_pos.mpr hd
  have hMod := Nat.mod_lt n hd
  have hSplit : (n : ℚ) = d * (n / d : ℕ) + (n % d : ℕ) := by
    exact_mod_cast (Nat.div_add_mod n d).symm
  have hQuotient : (n : ℚ) / d = (n / d : ℕ) + (n % d : ℕ) / d := by
    rw [div_eq_iff hdQ.ne', add_mul, div_mul_cancel₀ _ hdQ.ne', mul_comm]
    exact hSplit
  have hRest : 0 ≤ ((n % d : ℕ) : ℚ) / d := div_nonneg (Nat.cast_nonneg _) hdQ.le
  -- the rest of the division decides which way it goes, and a half goes either way
  rw [hQuotient, abs_sub_le_iff]
  unfold roundDiv
  dsimp only
  split
  · rename_i h
    have hHalf : d ≤ 2 * (n % d) := by
      simp only [gt_iff_lt, Bool.or_eq_true, Bool.and_eq_true, decide_eq_true_eq, beq_iff_eq] at h
      omega
    have hLow : 1 / 2 ≤ ((n % d : ℕ) : ℚ) / d := by
      rw [div_le_div_iff₀ two_pos hdQ, one_mul, mul_comm]
      exact_mod_cast hHalf
    have hHigh : ((n % d : ℕ) : ℚ) / d ≤ 1 := (div_le_one hdQ).mpr (Nat.cast_le.mpr hMod.le)
    push_cast
    constructor <;> linarith
  · rename_i h
    have hHalf : 2 * (n % d) ≤ d := by
      simp only [gt_iff_lt, Bool.or_eq_true, Bool.and_eq_true, decide_eq_true_eq, beq_iff_eq] at h
      omega
    have hHigh : ((n % d : ℕ) : ℚ) / d ≤ 1 / 2 := by
      rw [div_le_div_iff₀ hdQ two_pos, one_mul, mul_comm]
      exact_mod_cast hHalf
    constructor <;> linarith

/-- Nothing is left of a quotient of at most one half: the even one of two is zero. -/
theorem roundDiv_eq_zero_iff (hd : 0 < d) : roundDiv n d = 0 ↔ 2 * n ≤ d := by
  unfold roundDiv
  dsimp only
  by_cases hSmall : n < d
  · rw [Nat.div_eq_of_lt hSmall, Nat.mod_eq_of_lt hSmall]
    simp
  · have hOne : 1 ≤ n / d := (Nat.one_le_div_iff hd).mpr (not_lt.mp hSmall)
    constructor
    · intro hZero
      split at hZero <;> omega
    · omega

/-- The mantissa of a quotient at an exponent. -/
def mantissaAt (num den : ℕ) (e : ℤ) : ℕ :=
  if 0 ≤ e then roundDiv num (den * pow2 e.toNat) else roundDiv (num * pow2 (-e).toNat) den

theorem abs_mantissaAt_sub_le (num : ℕ) (hDen : 0 < den) (e : ℤ) :
    |(mantissaAt num den e : ℚ) - num / den / 2 ^ e| ≤ 1 / 2 := by
  rw [quotient_eq, mantissaAt]
  split
  · exact abs_roundDiv_sub_le _ (Nat.mul_pos hDen (Number.pow2_pos _))
  · exact abs_roundDiv_sub_le _ hDen

theorem round_eq (negative : Bool) (den : ℕ) (hNum : num ≠ 0) :
    round negative num den =
      if mantissaAt num den (exponentFor num den) = pow2 53 then
        if maxExponent < exponentFor num den + 1 then infinite negative
        else finite negative (pow2 52) (exponentFor num den + 1)
      else if maxExponent < exponentFor num den then infinite negative
      else finite negative (mantissaAt num den (exponentFor num den)) (exponentFor num den) := by
  rw [round, if_neg hNum]
  dsimp only
  -- the mantissa of the definition is read as one number before the cases are split
  rw [← mantissaAt]
  split <;> rfl

/-- The double of a quotient is finite or not, and keeps the sign. -/
theorem round_cases (negative : Bool) (num den : ℕ) :
    (∃ m q, round negative num den = finite negative m q) ∨
      round negative num den = infinite negative := by
  by_cases hNum : num = 0
  · exact .inl ⟨0, minExponent, by rw [round, if_pos hNum, zero]⟩
  · rw [round_eq negative den hNum]
    split <;> split
    · exact .inr rfl
    · exact .inl ⟨_, _, rfl⟩
    · exact .inr rfl
    · exact .inl ⟨_, _, rfl⟩

/-- The double of a quotient stands for its mantissa at its exponent. -/
theorem value_round (hNum : num ≠ 0)
    (h : round false num den = finite false m q) :
    (finite false m q).value =
      mantissaAt num den (exponentFor num den) * 2 ^ exponentFor num den := by
  rw [round_eq false den hNum] at h
  split at h
  · rename_i hCarry
    split at h
    · cases h
    · rw [← h, hCarry, Number.pow2_succ 52, Nat.cast_mul, Nat.cast_ofNat]
      simp only [value, Bool.false_eq_true, if_false]
      rw [zpow_add_one₀ two_ne_zero]
      ring
  · split at h
    · cases h
    · rw [← h]
      rfl

/-! ## Quotients among integers -/

/-- A numerator of 53 bits leaves no place before the point unused. -/
theorem exponentFor_nonpos (hNum : 0 < num) (hDen : 0 < den) (hBits : num < 2 ^ 53) :
    exponentFor num den ≤ 0 := by
  by_contra hPositive
  have hReach := zpow_exponentFor_le hNum hDen (by unfold minExponent; omega)
  have hNumQ : (num : ℚ) / den < 2 ^ (53 : ℤ) := by
    calc (num : ℚ) / den ≤ num := div_le_self (Nat.cast_nonneg _) (by exact_mod_cast hDen)
      _ < 2 ^ (53 : ℤ) := by exact_mod_cast hBits
  have hLt := (zpow_lt_zpow_iff_right₀ (one_lt_two : (1 : ℚ) < 2)).mp (lt_of_le_of_lt hReach hNumQ)
  omega

/-- **A quotient is not rounded beyond an integer** above it. -/
theorem value_round_le {N : ℕ} (hNum : 0 < num) (hDen : 0 < den)
    (hBits : num < 2 ^ 53) (h : round false num den = finite false m q)
    (hLe : (num : ℚ) / den ≤ N) : (finite false m q).value ≤ N := by
  have hExponent := exponentFor_nonpos hNum hDen hBits
  rw [value_round hNum.ne' h]
  generalize exponentFor num den = e at hExponent
  have hPow : (0 : ℚ) < 2 ^ e := zpow_pos two_pos e
  -- at an exponent below the point the integer is an integer, too
  have hInteger : (N : ℚ) / 2 ^ e = (N * pow2 (-e).toNat : ℕ) := by
    rw [Nat.cast_mul, cast_pow2_toNat (by omega), zpow_neg, div_eq_mul_inv]
  have hBelow : (num : ℚ) / den / 2 ^ e ≤ (N * pow2 (-e).toNat : ℕ) := by
    rw [← hInteger]
    exact div_le_div_of_nonneg_right hLe hPow.le
  have hNear := (abs_sub_le_iff.mp (abs_mantissaAt_sub_le num hDen e)).1
  rw [← le_div_iff₀ hPow, hInteger, Nat.cast_le]
  by_contra hAbove
  have hNext : ((N * pow2 (-e).toNat : ℕ) : ℚ) + 1 ≤ mantissaAt num den e := by
    exact_mod_cast not_le.mp hAbove
  linarith

/-- **A quotient comes to nothing** exactly if it is not more than half of the least positive
double. -/
theorem value_round_eq_zero_iff (hNum : 0 < num) (hDen : 0 < den)
    (h : round false num den = finite false m q) :
    (finite false m q).value = 0 ↔ num * 2 ^ 1075 ≤ den := by
  have hDenQ : (0 : ℚ) < den := Nat.cast_pos.mpr hDen
  have hSmall : num * 2 ^ 1075 ≤ den ↔ (num : ℚ) / den ≤ 2 ^ (-1075 : ℤ) := by
    rw [div_le_iff₀ hDenQ, zpow_neg, inv_mul_eq_div, le_div_iff₀ (zpow_pos two_pos _)]
    exact_mod_cast Iff.rfl
  rw [value_round hNum.ne' h, mul_eq_zero_iff_right (zpow_ne_zero _ two_ne_zero), Nat.cast_eq_zero]
  -- above the least exponent a mantissa has 53 bits and is not zero
  rcases eq_or_lt_of_le (minExponent_le_exponentFor num den) with hLeast | hMore
  · rw [← hLeast]
    have hTwice : 2 * (num * pow2 (-minExponent).toNat) = num * 2 ^ 1075 := by
      have hPlaces : (-minExponent).toNat + 1 = 1075 := rfl
      rw [pow2_eq, ← mul_assoc, mul_comm 2 num, mul_assoc, ← pow_succ', hPlaces]
    rw [mantissaAt, if_neg (by decide), roundDiv_eq_zero_iff hDen, hTwice]
  · have hReach := zpow_exponentFor_le hNum hDen hMore
    have hPow : (0 : ℚ) < 2 ^ exponentFor num den := zpow_pos two_pos _
    have hNear := (abs_sub_le_iff.mp
      (abs_mantissaAt_sub_le num hDen (exponentFor num den))).2
    constructor
    · intro hZero
      exfalso
      rw [hZero, Nat.cast_zero, sub_zero, div_le_iff₀ hPow] at hNear
      rw [zpow_add₀ two_ne_zero] at hReach
      have hBig : (1 : ℚ) ≤ 2 ^ (52 : ℤ) := one_le_zpow₀ one_le_two (by decide)
      nlinarith
    · intro hLe
      exfalso
      have hPlaces := (zpow_le_zpow_iff_right₀ (one_lt_two : (1 : ℚ) < 2)).mp
        (hReach.trans (hSmall.mp hLe))
      unfold minExponent at hMore
      omega

/-- **A quotient is not rounded down to an integer** below it, unless it comes to nothing. -/
theorem lt_value_round (hNum : 0 < num) (hDen : 0 < den)
    (hBits : num < 2 ^ 53) (h : round false num den = finite false m q)
    (hSome : den < num * 2 ^ 1075) (hLt : (n : ℚ) < num / den) :
    (n : ℚ) < (finite false m q).value := by
  have hDenQ : (0 : ℚ) < den := Nat.cast_pos.mpr hDen
  have hValue := value_round hNum.ne' h
  rcases Nat.eq_zero_or_pos n with rfl | hn
  · have hNonneg : 0 ≤ (finite false m q).value := by
      rw [hValue]
      exact magnitude_nonneg _ _
    have hNonzero : (finite false m q).value ≠ 0 := fun hZero =>
      absurd ((value_round_eq_zero_iff hNum hDen h).mp hZero) (not_le.mpr hSome)
    rw [Nat.cast_zero]
    exact lt_of_le_of_ne hNonneg hNonzero.symm
  · have hExponent : minExponent < exponentFor num den := by
      have hOne : (2 : ℚ) ^ (0 : ℤ) < num / den := by
        rw [zpow_zero]
        exact lt_of_le_of_lt (by exact_mod_cast hn) hLt
      have hPlaces := (zpow_lt_zpow_iff_right₀ (one_lt_two : (1 : ℚ) < 2)).mp
        (hOne.trans (lt_zpow_exponentFor hNum hDen))
      unfold minExponent
      omega
    have hReach := zpow_exponentFor_le hNum hDen hExponent
    rw [zpow_add₀ two_ne_zero] at hReach
    have hNear := (abs_sub_le_iff.mp
      (abs_mantissaAt_sub_le num hDen (exponentFor num den))).2
    have hPow : (0 : ℚ) < 2 ^ exponentFor num den := zpow_pos two_pos _
    by_contra hAbove
    rw [not_lt, hValue] at hAbove
    generalize (2 : ℚ) ^ exponentFor num den = unit at hReach hNear hPow hAbove
    -- what the integer falls short of the numerator is at least one, and at most half of a unit
    have hShort : (n : ℚ) * den + 1 ≤ num := by
      rw [lt_div_iff₀ hDenQ] at hLt
      exact_mod_cast hLt
    have hHalf : (num : ℚ) ≤ (unit / 2 + n) * den := by
      rw [sub_le_iff_le_add, div_le_iff₀ hPow] at hNear
      rw [← div_le_iff₀ hDenQ]
      linarith only [hNear, hAbove]
    have hUnit : unit * 2 ^ (52 : ℤ) * den < 2 ^ (53 : ℤ) := by
      have hBitsQ : (num : ℚ) < 2 ^ (53 : ℤ) := by exact_mod_cast hBits
      exact lt_of_le_of_lt ((le_div_iff₀ hDenQ).mp hReach) hBitsQ
    norm_num only at hUnit
    linarith only [hShort, hHalf, hUnit]

/-! ## The integer above -/

theorem ceil_div (n : ℕ) (hd : 0 < d) : ⌈(n : ℚ) / d⌉ = ((n + d - 1) / d : ℕ) := by
  have hdQ : (0 : ℚ) < d := Nat.cast_pos.mpr hd
  refine eq_of_forall_ge_iff fun z => ?_
  rw [Int.ceil_le, div_le_iff₀ hdQ]
  rcases lt_or_ge z 0 with hz | hz
  · have hzd : (z : ℚ) * d < 0 := mul_neg_of_neg_of_pos (Int.cast_lt_zero.mpr hz) hdQ
    constructor
    · exact fun h => absurd (lt_of_le_of_lt h hzd) (not_lt.mpr (Nat.cast_nonneg n))
    · exact fun h => absurd (lt_of_le_of_lt h hz) (not_lt.mpr (Int.natCast_nonneg _))
  · obtain ⟨k, rfl⟩ := Int.eq_ofNat_of_zero_le hz
    have hUp : n + d - 1 ≤ d * k + (d - 1) ↔ n ≤ k * d := by
      rw [mul_comm]
      omega
    rw [Nat.cast_le, Nat.div_le_iff_le_mul_add_pred hd, hUp]
    exact_mod_cast Iff.rfl

/-- The least integer that is not below a double is that of what it stands for. -/
theorem ceiling?_finite (m : ℕ) (q : ℤ) :
    ceiling? (finite false m q) = some ⌈(finite false m q).value⌉ := by
  unfold ceiling? scaled
  simp only [value, Bool.false_eq_true, if_false]
  split
  · rename_i h
    rw [← ceil_div _ one_pos, Nat.cast_one, div_one, Nat.cast_mul, cast_pow2_toNat h]
  · rename_i h
    rw [← ceil_div _ (Number.pow2_pos _), cast_pow2_toNat (by omega), zpow_neg, div_inv_eq_mul]

/-- **The integer above the double of a quotient** is the one above the quotient, unless it comes to
nothing. -/
theorem ceil_value_round (hNum : 0 < num) (hDen : 0 < den)
    (hBits : num < 2 ^ 53) (h : round false num den = finite false m q)
    (hSome : den < num * 2 ^ 1075) : ⌈(finite false m q).value⌉ = ⌈(num : ℚ) / den⌉ := by
  have hPositive : (0 : ℚ) < num / den :=
    div_pos (Nat.cast_pos.mpr hNum) (Nat.cast_pos.mpr hDen)
  obtain ⟨k, hk⟩ : ∃ k : ℕ, ⌈(num : ℚ) / den⌉ = k + 1 := by
    refine ⟨(⌈(num : ℚ) / den⌉ - 1).toNat, ?_⟩
    have hCeil := Int.ceil_pos.mpr hPositive
    omega
  obtain ⟨hAbove, hBelow⟩ := Int.ceil_eq_iff.mp hk
  rw [hk, Int.ceil_eq_iff]
  push_cast at hAbove hBelow ⊢
  rw [add_sub_cancel_right] at hAbove ⊢
  refine ⟨lt_value_round hNum hDen hBits h hSome hAbove, ?_⟩
  have hBelowNat : (num : ℚ) / den ≤ (k + 1 : ℕ) := by exact_mod_cast hBelow
  exact_mod_cast value_round_le hNum hDen hBits h hBelowNat

end Winnow.Binary64
