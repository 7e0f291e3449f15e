import Winnow.Number.Digits
import Winnow.Store.Schema

/-!
# Winnow.Store.Stored — what the store keeps and compares

The store knows four classes of values: null, integers of 64 bits, doubles and texts. Every cell and
every parameter of a condition is one of them. Booleans are the integers 0 and 1. Decimals become
the nearest doubles, kept as integers where they are whole. Dates, wall clocks and identifiers are
texts whose order is the order of what they stand for; the offset of a date-time is dropped. Members
of an enumeration are their names, documents their texts.

Comparison with null is unknown. All numbers come before all texts; numbers are compared by value
and texts by code points.
-/

namespace Winnow

/-- A value as the store keeps it. -/
inductive Stored where
  | null
  | int (n : Int)
  | real (x : Binary64)
  | text (s : String)
  deriving DecidableEq, Inhabited

namespace Stored

/-- The least integer of 64 bits. -/
def minInt : Int := -9223372036854775808

/-- The greatest integer of 64 bits. -/
def maxInt : Int := 9223372036854775807

/-- Does the integer fit into 64 bits? -/
def fits (n : Int) : Bool := minInt ≤ n && n ≤ maxInt

/-- A double as the store keeps it: what is not a number is null. -/
def ofDouble : Binary64 → Stored
  | .nan => null
  | x => real x

/-- A whole double as an integer, where the column stores numbers and not doubles. -/
def ofNumber (x : Binary64) : Stored :=
  match x.truncate? with
  | some n => if x.isIntegral && fits n then int n else ofDouble x
  | none => ofDouble x

/-- Order of two values; unknown if one of them is null. -/
def compare? : Stored → Stored → Option Ordering
  | null, _ => none
  | _, null => none
  | text a, text b => some (compare a b)
  | text _, _ => some .gt
  | _, text _ => some .lt
  | int a, int b => some (compare a b)
  | int a, real y => Binary64.compareInt? a y
  | real x, int b => (Binary64.compareInt? b x).map Ordering.swap
  | real x, real y => Binary64.compare? x y

/-- Order of two cells in a list of rows, where null comes first. -/
def order (a b : Stored) : Ordering :=
  match a, b with
  | null, null => .eq
  | null, _ => .lt
  | _, null => .gt
  | a, b => (compare? a b).getD .eq

/-- The text that a text search sees; none of null. -/
def asText? : Stored → Option String
  | null => none
  | int n => some (Text.intText n)
  | real x => some x.storedText
  | text s => some s

/-- A number as its text, where it is compared with texts. -/
def toText (s : Stored) : Stored :=
  match s.asText? with
  | some t => text t
  | none => null

end Stored

/-- Are the cells of such a column texts that numbers are compared with as texts? -/
def ColumnKind.holdsText : ColumnKind → Bool
  | .uuid | .text | .enumeration => true
  | _ => false

/-- A cell's value as the store keeps it. Cells hold no other values than these. -/
def Value.stored : Value → Stored
  | bool b => .int (if b then 1 else 0)
  | int n => .int n
  | double x => .ofDouble x
  | decimal d => (d.toBinary64?.map Stored.ofNumber).getD .null
  | text s => .text s
  | date d => .text d.text
  | dateTime t => .text t.storedText
  | uuid u => .text u.hex
  | member m => .text m.name
  | _ => .null

end Winnow
