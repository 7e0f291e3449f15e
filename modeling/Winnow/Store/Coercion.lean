import Winnow.Calendar.Iso
import Winnow.Error
import Winnow.Store.Schema
import Winnow.Value.Text

/-!
# Winnow.Store.Coercion — arguments as their column takes them

An argument of a request is mostly text, whatever the column it is compared with. Before the
comparison it becomes a value of the column's type, or is refused with the name of the column. Null
stays null, a value that has the type already stays as it is, and the columns of documents and
enumerations take anything.
-/

namespace Winnow.Column

open Winnow.Text (trim lower)
open Winnow.Number (readInt? readDouble?)

/-- The texts that spell true. -/
def trueWords : List String := ["1", "true", "yes", "y", "on"]

/-- The texts that spell false. -/
def falseWords : List String := ["0", "false", "no", "n", "off"]

/-- The refusal of an argument. -/
def refuse {α : Type} (column : String) (expected : Expected) : Except Error α :=
  .error (.invalidArgument column expected)

/-- What a reader found, or the refusal of the argument. -/
def orRefuse {α : Type} (column : String) (expected : Expected) : Option α → Except Error α
  | some a => .ok a
  | none => refuse column expected

/-- The argument of a boolean column. -/
def coerceBool (column : String) : Value → Except Error Value
  | .bool b => .ok (.bool b)
  | v =>
    let word := lower (trim v.displayOrEmpty)
    if trueWords.contains word then .ok (.bool true)
    else if falseWords.contains word then .ok (.bool false)
    else refuse column .boolean

/-- The argument of an integer column. Doubles lose their fraction. -/
def coerceInt (column : String) : Value → Except Error Value
  | .int n => .ok (.int n)
  | .double x => match x with
    | .infinite _ => .error .overflow
    | .nan => .error .meaningless
    | x => .ok (.int (x.truncate?.getD 0))
  | v => orRefuse column .number ((readInt? (trim v.display).toList).map .int)

/-- The argument of a column of doubles. -/
def coerceDouble (column : String) : Value → Except Error Value
  | .int n =>
    let x := Binary64.ofInt n
    if x.isFinite then .ok (.double x) else .error .overflow
  | .double x => .ok (.double x)
  | v => orRefuse column .number ((readDouble? (trim v.display).toList).map .double)

/-- The argument of a column of decimals. -/
def coerceDecimal (column : String) : Value → Except Error Value
  | .decimal d => .ok (.decimal d)
  | v => orRefuse column .number ((Decimal.read? (trim v.display).toList).map .decimal)

/-- Does the text separate a date from a time? -/
def hasTime (cs : List Char) : Bool := cs.contains 'T' || cs.contains ' '

/-- The date-time that a text spells, where a `Z` is an offset of zero wherever it stands. -/
def readDateTime? (cs : List Char) : Option DateTime :=
  Calendar.Iso.readDateTime? (cs.flatMap fun c => if c == 'Z' then "+00:00".toList else [c])

/-- The argument of a column of dates. A date-time stands for its day. -/
def coerceDate (column : String) : Value → Except Error Value
  | .dateTime t => .ok (.date t.date)
  | .date d => .ok (.date d)
  | v =>
    let cs := (trim v.displayOrEmpty).toList
    let date? := if hasTime cs then (readDateTime? cs).map (·.date) else Calendar.Iso.readDate? cs
    orRefuse column .date (date?.map .date)

/-- The date-time that the text of an argument spells. Texts of ten characters without a time are
dates. -/
def dateTimeOfText? (cs : List Char) : Option DateTime :=
  if !hasTime cs && cs.length = 10 then (Calendar.Iso.readDate? cs).map .atMidnight
  else readDateTime? cs

/-- The argument of a column of date-times. -/
def coerceDateTime (column : String) (zoned : Bool) (v : Value) : Except Error Value :=
  let settle (t : DateTime) : Value := .dateTime (if zoned then t.aware else t)
  match v with
  | .dateTime t => .ok (settle t)
  | v => orRefuse column .dateTime ((dateTimeOfText? (trim v.displayOrEmpty).toList).map settle)

/-- The argument of a column of identifiers. -/
def coerceUuid (column : String) : Value → Except Error Value
  | .uuid u => .ok (.uuid u)
  | v => match Uuid.read? (trim v.display).toList with
    | some u => .ok (.uuid u)
    | none => .error (.invalidUuid column)

/-- The argument of a column of texts. -/
def coerceText (v : Value) : Value := if v.isText then v else .text v.display

/-- An argument as the column takes it. -/
def coerce (c : Column) (v : Value) : Except Error Value :=
  match v with
  | .null => .ok .null
  | v => match c.kind with
    | .boolean => coerceBool c.name v
    | .integer => coerceInt c.name v
    | .double => coerceDouble c.name v
    | .decimal => coerceDecimal c.name v
    | .date => coerceDate c.name v
    | .dateTime zoned => coerceDateTime c.name zoned v
    | .uuid => coerceUuid c.name v
    | .text => .ok (coerceText v)
    | .document => .ok v
    | .enumeration => .ok v
    | .other => .ok v

/-- Null apart, the kind of the column decides. -/
theorem coerce_of_ne_null (c : Column) {v : Value} (h : v ≠ .null) :
    c.coerce v = match c.kind with
      | .boolean => coerceBool c.name v
      | .integer => coerceInt c.name v
      | .double => coerceDouble c.name v
      | .decimal => coerceDecimal c.name v
      | .date => coerceDate c.name v
      | .dateTime zoned => coerceDateTime c.name zoned v
      | .uuid => coerceUuid c.name v
      | .text => .ok (coerceText v)
      | .document => .ok v
      | .enumeration => .ok v
      | .other => .ok v := by
  cases v with
  | null => exact absurd rfl h
  | _ => rfl

/-- Several arguments as the column takes them; the first refusal counts. -/
def coerceAll (c : Column) : List Value → Except Error (List Value)
  | [] => .ok []
  | v :: vs => do
    let w ← c.coerce v
    return w :: (← c.coerceAll vs)

end Winnow.Column
