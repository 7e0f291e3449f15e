import Winnow.Number.Binary64
import Winnow.Text.Digit

/-!
# Winnow.Number.Digits — decimal digits of a double

Two ways to choose decimal digits for a double: the fewest that read back as the same double (of
those the nearest), and a fixed number of significant ones. The chosen digits are then written
positionally or with an exponent, as a record of the choices of the format says.
-/

namespace Winnow.Number

open Winnow.Text (natChars)

/-- Decimal digits with a power of ten: `digits · 10 ^ exponent`. -/
structure Digits where
  digits : Nat
  exponent : Int
  deriving DecidableEq, Inhabited

namespace Digits

/-- Drop trailing zeros of the digits; `fuel` bounds their number. -/
def strip : Nat → Digits → Digits
  | 0, d => d
  | fuel + 1, d =>
    if d.digits ≠ 0 && d.digits % 10 == 0 then strip fuel ⟨d.digits / 10, d.exponent + 1⟩ else d

/-- The digits without trailing zeros. -/
def stripped (d : Digits) : Digits := strip (natChars d.digits).length d

/-- The power of ten of the first digit. -/
def leading (d : Digits) : Int := d.exponent + (natChars d.digits).length - 1

end Digits

/-- The least `k ≥ start` with `num / den < 10 ^ k`, sought upwards for `fuel` steps. -/
def magnitudeFrom (num den : Nat) : Nat → Int → Int
  | 0, k => k
  | fuel + 1, k =>
    let below := if 0 ≤ k then num < den * pow10 k.toNat else num * pow10 (-k).toNat < den
    if below then k else magnitudeFrom num den fuel (k + 1)

/-- The least `k` with `num / den < 10 ^ k`, for positive `num` and `den`. -/
def magnitude (num den : Nat) : Int :=
  let e : Int := (Nat.log2 num : Int) - (Nat.log2 den : Int)
  magnitudeFrom num den 6 (Int.fdiv ((e - 1) * 30103) 100000)

/-- The natural number below or at `num / den / 10 ^ t`. -/
def gridFloor (num den : Nat) (t : Int) : Nat :=
  if 0 ≤ t then num / (den * pow10 t.toNat) else num * pow10 (-t).toNat / den

/-- Order of `c · 10 ^ t` and `num / den`. -/
def compareGrid (c : Nat) (t : Int) (num den : Nat) : Ordering :=
  if 0 ≤ t then compare (c * pow10 t.toNat * den) num
  else compare (c * den) (num * pow10 (-t).toNat)

/-- The reals that round to the double `m · 2 ^ q` (for positive `m`), as numerators of a common
denominator: the lower end, the double itself and the upper end. The interval is closed iff `m` is
even. -/
structure Interval where
  low : Nat
  mid : Nat
  high : Nat
  den : Nat
  closed : Bool

/-- The interval of a positive double. Below a power of two the neighbours are half as far apart. -/
def Interval.of (m : Nat) (q : Int) : Interval :=
  let below := if m = pow2 52 ∧ Binary64.minExponent < q then 1 else 2
  let unit := Binary64.scaled 1 (q - 2)
  ⟨(4 * m - below) * unit.1, 4 * m * unit.1, (4 * m + 2) * unit.1, unit.2, m % 2 == 0⟩

/-- Does the grid point `c · 10 ^ t` lie in the interval? -/
def Interval.contains (i : Interval) (c : Nat) (t : Int) : Bool :=
  let lo := compareGrid c t i.low i.den
  let hi := compareGrid c t i.high i.den
  (lo == .gt || (i.closed && lo == .eq)) && (hi == .lt || (i.closed && hi == .eq))

/-- The nearer of the two points `c` and `c + 1` of the grid `10 ^ t`, the even one of two. -/
def Interval.nearer (i : Interval) (c : Nat) (t : Int) : Nat :=
  match compareGrid (2 * c + 1) t (2 * i.mid) i.den with
  | .gt => c
  | .lt => c + 1
  | .eq => if c % 2 == 0 then c else c + 1

/-- The neighbours of the double on the grid with `n` significant digits, if one of them lies in the
interval. -/
def Interval.onGrid (i : Interval) (k : Int) (n : Nat) : Option Digits :=
  let t := k - n
  let c := gridFloor i.mid i.den t
  match i.contains c t, i.contains (c + 1) t with
  | true, true => some ⟨i.nearer c t, t⟩
  | true, false => some ⟨c, t⟩
  | false, true => some ⟨c + 1, t⟩
  | false, false => none

/-- The fewest digits that read back as the positive double `m · 2 ^ q`; of those the nearest to it.
-/
def shortest (m : Nat) (q : Int) : Digits :=
  let i := Interval.of m q
  let k := magnitude i.mid i.den
  match (List.range' 1 17).findSome? (i.onGrid k) with
  | some d => d.stripped
  | none => (Digits.mk (gridFloor i.mid i.den (k - 17)) (k - 17)).stripped

/-- The natural number nearest to `num / den`, the greater one of two. -/
def roundHalfUp (num den : Nat) : Nat := (2 * num + den) / (2 * den)

/-- The positive double `m · 2 ^ q` rounded to `n` significant digits, where a half goes up. -/
def significant (n : Nat) (m : Nat) (q : Int) : Digits :=
  let (num, den) := Binary64.scaled m q
  let t := magnitude num den - n
  let c :=
    if 0 ≤ t then roundHalfUp num (den * pow10 t.toNat)
    else roundHalfUp (num * pow10 (-t).toNat) den
  (Digits.mk c t).stripped

/-- The choices of a number format. A first digit is written positionally from the power of ten
`lowest` on, and with an exponent again from `highest` on; before the exponent, a mantissa of one
digit may keep its `.0`. -/
structure Format where
  lowest : Int
  highest : Int
  pointBeforeExponent : Bool

/-- An exponent: its sign always, and at least two digits. -/
def exponentText (e : Int) : String :=
  (if e < 0 then "e-" else "e+") ++ Text.paddedNat 2 e.natAbs

/-- Positive digits written as the format chooses. -/
def Format.write (f : Format) (d : Digits) : String :=
  let cs := natChars d.digits
  let lead := d.leading
  if lead < f.lowest || f.highest ≤ lead then
    match cs with
    | [] => ""
    | [c] => String.ofList [c] ++ (if f.pointBeforeExponent then ".0" else "") ++ exponentText lead
    | c :: rest => String.ofList (c :: '.' :: rest) ++ exponentText lead
  else if lead < 0 then
    String.ofList ('0' :: '.' :: List.replicate (-lead - 1).toNat '0' ++ cs)
  else
    let whole := (lead + 1).toNat
    let cs := cs ++ List.replicate (whole - cs.length) '0'
    let fraction := cs.drop whole
    String.ofList (cs.take whole ++ '.' :: (if fraction.isEmpty then ['0'] else fraction))

/-- A double in text: the shortest digits, positional for first digits from 10⁻⁴ to 10¹⁵, and always
with a point or an exponent. -/
def doubleFormat : Format := ⟨-4, 16, false⟩

/-- A stored number in text: fifteen significant digits, positional for first digits from 10⁻⁴ to
10¹⁴, and always with a point. -/
def storedFormat : Format := ⟨-4, 15, true⟩

end Winnow.Number

namespace Winnow

/-- The written form of a double. -/
def Binary64.text : Binary64 → String
  | .nan => "nan"
  | .infinite neg => if neg then "-inf" else "inf"
  | .finite neg m q =>
    (if neg then "-" else "") ++
      (if m = 0 then "0.0" else Number.doubleFormat.write (Number.shortest m q))

/-- The text a text search sees of a stored double. -/
def Binary64.storedText : Binary64 → String
  | .nan => ""
  | .infinite neg => if neg then "-Inf" else "Inf"
  | .finite neg m q =>
    if m = 0 then "0.0"
    else (if neg then "-" else "") ++ Number.storedFormat.write (Number.significant 15 m q)

end Winnow
