import Winnow.Number.Power

/-!
# Winnow.Number.Binary64 — double precision numbers, exactly

A double is a sign, a mantissa and an exponent of two, or an infinity, or not a number. All
arithmetic here is exact on natural numbers; the one place where precision is lost is
`Binary64.round`, which takes a quotient of natural numbers to the nearest double, and to the one
with the even mantissa where two are equally near.
-/

namespace Winnow

/-- A double precision number. The finite ones stand for `± mantissa · 2 ^ exponent`. -/
inductive Binary64 where
  | finite (negative : Bool) (mantissa : Nat) (exponent : Int)
  | infinite (negative : Bool)
  | nan
  deriving DecidableEq, Inhabited

namespace Binary64

open Winnow.Number (pow2 pow10)

/-- The exponent of the subnormal numbers and of zero. -/
def minExponent : Int := -1074

/-- The greatest exponent of a finite double. -/
def maxExponent : Int := 971

/-- A signed zero. -/
def zero (negative : Bool) : Binary64 := finite negative 0 minExponent

/-- A natural number times a power of two, as a quotient of natural numbers. -/
def scaled (m : Nat) (q : Int) : Nat × Nat :=
  if 0 ≤ q then (m * pow2 q.toNat, 1) else (m, pow2 (-q).toNat)

/-- The exponent at which the quotient `num / den` has a mantissa of 53 bits, or the least exponent
if that is greater. Both numbers are positive. -/
def exponentFor (num den : Nat) : Int :=
  let e : Int := (Nat.log2 num : Int) - (Nat.log2 den : Int)
  let reaches := if 0 ≤ e then den * pow2 e.toNat ≤ num else den ≤ num * pow2 (-e).toNat
  max minExponent (if reaches then e - 52 else e - 53)

/-- The natural number nearest to `n / d`, the even one of two. -/
def roundDiv (n d : Nat) : Nat :=
  let m := n / d
  let r := n % d
  if 2 * r > d || (2 * r == d && m % 2 == 1) then m + 1 else m

/-- The double nearest to `± num / den` for a positive `den`. -/
def round (negative : Bool) (num den : Nat) : Binary64 :=
  if num = 0 then zero negative
  else
    let q := exponentFor num den
    let m :=
      if 0 ≤ q then roundDiv num (den * pow2 q.toNat) else roundDiv (num * pow2 (-q).toNat) den
    let (m, q) := if m = pow2 53 then (pow2 52, q + 1) else (m, q)
    if maxExponent < q then infinite negative else finite negative m q

/-- The number of decimal digits of a natural number. -/
def decimalLength (n : Nat) : Nat := (Nat.toDigits 10 n).length

/-- The double nearest to `± digits · 10 ^ exponent`. Magnitudes far outside the range of doubles
are settled by the number of digits alone. -/
def ofDecimal (negative : Bool) (digits : Nat) (exponent : Int) : Binary64 :=
  if digits = 0 then zero negative
  else
    let top := exponent + (decimalLength digits : Int)
    if 400 < top then infinite negative
    else if top < -400 then zero negative
    else if 0 ≤ exponent then round negative (digits * pow10 exponent.toNat) 1
    else round negative digits (pow10 (-exponent).toNat)

/-- The double nearest to an integer; an infinity if it lies outside the range. -/
def ofInt (n : Int) : Binary64 := round (n < 0) n.natAbs 1

/-- Is it neither infinite nor not a number? -/
def isFinite : Binary64 → Bool
  | finite .. => true
  | _ => false

/-- Is it a zero of either sign? -/
def isZero : Binary64 → Bool
  | finite _ m _ => m == 0
  | _ => false

/-- The integer part of a finite double, toward zero. -/
def truncate? : Binary64 → Option Int
  | finite neg m q =>
    let (n, d) := scaled m q
    let t : Int := (n / d : Nat)
    some (if neg then -t else t)
  | _ => none

/-- The least integer that is not below a finite double. -/
def ceiling? : Binary64 → Option Int
  | finite neg m q =>
    let (n, d) := scaled m q
    some (if neg then -((n / d : Nat) : Int) else (((n + d - 1) / d : Nat) : Int))
  | _ => none

/-- Is it finite and without a fraction? -/
def isIntegral : Binary64 → Bool
  | finite _ m q => let (n, d) := scaled m q; n % d == 0
  | _ => false

/-- Order of `m₁ · 2 ^ q₁` and `m₂ · 2 ^ q₂`. -/
def compareMagnitude (m₁ : Nat) (q₁ : Int) (m₂ : Nat) (q₂ : Int) : Ordering :=
  let q := min q₁ q₂
  compare (m₁ * pow2 (q₁ - q).toNat) (m₂ * pow2 (q₂ - q).toNat)

/-- Order by value; nothing is comparable with what is not a number. The two zeros are equal. -/
def compare? : Binary64 → Binary64 → Option Ordering
  | nan, _ => none
  | _, nan => none
  | infinite a, infinite b => some (compare b a)
  | infinite a, finite .. => some (if a then .lt else .gt)
  | finite .., infinite b => some (if b then .gt else .lt)
  | finite s₁ m₁ q₁, finite s₂ m₂ q₂ =>
    if m₁ == 0 && m₂ == 0 then some .eq
    else match s₁, s₂ with
      | false, false => some (compareMagnitude m₁ q₁ m₂ q₂)
      | true, true => some (compareMagnitude m₂ q₂ m₁ q₁)
      | false, true => some .gt
      | true, false => some .lt

/-- An integer as a double would hold it if there were no bound on the mantissa. -/
def exactInt (n : Int) : Binary64 := finite (n < 0) n.natAbs 0

/-- Order of an integer and a double by their exact values. -/
def compareInt? (n : Int) (x : Binary64) : Option Ordering := compare? (exactInt n) x

end Binary64

end Winnow
