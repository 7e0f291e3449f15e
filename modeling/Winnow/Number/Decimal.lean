import Winnow.Number.Numeral

/-!
# Winnow.Number.Decimal — decimal numbers of any precision

A decimal keeps the digits and the exponent it was written with: `1.50` and `1.5` are different
decimals of one value. Written form and reader are inverse to each other on the decimals within the
limits of the exponent.
-/

namespace Winnow

/-- A decimal number: finite, infinite, or not a number (quiet or signalling, with the digits of its
payload; zero stands for none). -/
inductive Decimal where
  | finite (negative : Bool) (coefficient : Nat) (exponent : Int)
  | infinite (negative : Bool)
  | nan (negative signalling : Bool) (payload : Nat)
  deriving DecidableEq, Inhabited

namespace Decimal

open Winnow.Number
open Winnow.Text (natChars)

/-- The greatest power of ten of a first digit. -/
def maxLeading : Int := 999999999999999999

/-- The least power of ten of a last digit. -/
def minExponent : Int := -1999999999999999997

/-- Are the digits and the exponent within the limits? -/
def InRange (coefficient : Nat) (exponent : Int) : Prop :=
  minExponent ≤ exponent ∧
    exponent + (if coefficient = 0 then 0 else (Binary64.decimalLength coefficient : Int) - 1)
      ≤ maxLeading

instance (c : Nat) (e : Int) : Decidable (InRange c e) := inferInstanceAs (Decidable (_ ∧ _))

/-- The part of a text after a word, if the text begins with the word in small letters or capitals.
-/
def afterWord? (word : String) (cs : List Char) : Option (List Char) :=
  let w := word.toList
  if w.isPrefixOf (foldAscii cs) then some (cs.drop w.length) else none

/-- What stands after the sign of something that is not a number: a mark and, maybe, digits. -/
def readNan? (negative : Bool) (cs : List Char) : Option Decimal :=
  let payload (signalling : Bool) (ds : List Char) : Option Decimal :=
    if ds.all Char.isDigit then some (nan negative signalling (digitsValue ds)) else none
  match afterWord? "nan" cs with
  | some ds => payload false ds
  | none => (afterWord? "snan" cs).bind (payload true)

/-- The decimal a text spells. Underscores are dropped wherever they stand. -/
def read? (cs : List Char) : Option Decimal :=
  let cs := ((Text.trimChars cs).filter (· != '_')).map plainDigit
  let (negative, body) := takeSign cs
  let word := String.ofList (foldAscii body)
  if word == "inf" || word == "infinity" then some (infinite negative)
  else match readNan? negative body with
    | some d => some d
    | none => (readReal? negative body).bind fun r =>
        if InRange r.coefficient r.exponent then
          some (finite r.negative r.coefficient r.exponent)
        else none

/-- The digits of a finite decimal in text: plain if no digit stands left of the unit and the first
one is not far right of it, otherwise with an exponent. -/
def finiteChars (coefficient : Nat) (exponent : Int) : List Char :=
  let cs := natChars coefficient
  let lead := exponent + cs.length - 1
  if exponent ≤ 0 && -6 ≤ lead then
    if exponent = 0 then cs
    else
      let places := (-exponent).toNat
      let cs := List.replicate (places + 1 - cs.length) '0' ++ cs
      cs.take (cs.length - places) ++ '.' :: cs.drop (cs.length - places)
  else
    let mantissa := match cs with
      | c :: d :: rest => c :: '.' :: d :: rest
      | cs => cs
    mantissa ++ 'E' :: (if lead < 0 then '-' else '+') :: natChars lead.natAbs

/-- The written form of a decimal. -/
def text : Decimal → String
  | finite neg c e => String.ofList ((if neg then ['-'] else []) ++ finiteChars c e)
  | infinite neg => if neg then "-Infinity" else "Infinity"
  | nan neg signalling payload =>
    (if neg then "-" else "") ++ (if signalling then "sNaN" else "NaN")
      ++ (if payload = 0 then "" else String.ofList (natChars payload))

/-- Is it a zero of any sign and exponent? -/
def isZero : Decimal → Bool
  | finite _ c _ => c == 0
  | _ => false

/-- The nearest double; nothing for a signalling one, which has no value to convert. -/
def toBinary64? : Decimal → Option Binary64
  | finite neg c e => some (.ofDecimal neg c e)
  | infinite neg => some (.infinite neg)
  | nan _ signalling _ => if signalling then none else some .nan

/-- A finite decimal as a quotient of an integer and a natural number. -/
def ratio? : Decimal → Option (Int × Nat)
  | finite neg c e =>
    let n : Int := if neg then -(c : Int) else c
    some (if 0 ≤ e then (n * pow10 e.toNat, 1) else (n, pow10 (-e).toNat))
  | _ => none

end Decimal

end Winnow
