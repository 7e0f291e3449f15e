import Winnow.Calendar.Date
import Winnow.Error
import Winnow.Filter.Argument
import Winnow.Number.Numeral

/-!
# Winnow.Filter.Period — bounds of a period

A period has one or two fragments. A month stands for all its days and a day for all its seconds; as
a lower bound each is its first second, as an upper bound its last. A fragment that is neither
bounds as it is. A single fragment is both bounds.

The day of a day fragment is not looked at: whoever compares it finds out whether there is such a
day. The year zero is a leap year.
-/

namespace Winnow.Filter.Period

open Winnow.Text (isDecimalDigit digitValue? paddedNat)

/-- The number that decimal digits of any script spell. -/
def digitsNumber (cs : List Char) : Nat := cs.foldl (fun n c => n * 10 + (digitValue? c).getD 0) 0

/-- Year and month of a text `YYYY-MM`. -/
def month? (cs : List Char) : Option (Nat × Nat) :=
  let (year, rest) := (cs.take 4, cs.drop 4)
  match rest with
  | ['-', a, b] =>
    if year.length = 4 && year.all isDecimalDigit && isDecimalDigit a && isDecimalDigit b then
      some (digitsNumber year, digitsNumber [a, b])
    else none
  | _ => none

/-- Has the text the form `YYYY-MM-DD`? -/
def isDay (cs : List Char) : Bool :=
  match cs.drop 7 with
  | ['-', a, b] => (month? (cs.take 7)).isSome && isDecimalDigit a && isDecimalDigit b
  | _ => false

/-- The bound that a fragment stands for. -/
def bound (upper : Bool) (fragment : String) : Except Error String :=
  let cs := fragment.toList
  match month? cs with
  | some (year, month) =>
    if month < 1 || 12 < month then .error (.invalidMonth fragment)
    else if upper then
      .ok (fragment ++ "-" ++ paddedNat 2 (Calendar.daysInMonth year month) ++ " 23:59:59")
    else .ok (fragment ++ "-01 00:00:00")
  | none =>
    if isDay cs then .ok (fragment ++ (if upper then " 23:59:59" else " 00:00:00"))
    else .ok fragment

/-- The lower and the upper bound that an argument stands for. -/
def bounds (v : Value) : Except Error (String × String) :=
  match v.splitList with
  | [a] => do
    let lower ← bound false a.display
    return (lower, ← bound true a.display)
  | [a, b] => do
    let lower ← bound false a.display
    return (lower, ← bound true b.display)
  | _ => .error (.invalidPeriod v.display)

end Winnow.Filter.Period
