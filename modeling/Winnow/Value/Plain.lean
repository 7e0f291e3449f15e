import Winnow.Value
import Winnow.Json

/-!
# Winnow.Value.Plain — values as answers carry them

The plain form of a value holds nothing but null, booleans, numbers, texts, lists and mappings:
dates, date-times and identifiers become texts, decimals the nearest doubles, members of
enumerations their values, tuples lists. Keys of mappings are left alone, as are values that have no
plain form. Only a signalling decimal has none to give.

A document read as a value is in plain form already.
-/

namespace Winnow

namespace Value

mutual

/-- The plain form of a value; nothing if a signalling decimal is in it. -/
def plain? : Value → Option Value
  | mapping es => (plainEntries? es).map mapping
  | list xs => (plainItems? xs).map list
  | tuple xs => (plainItems? xs).map list
  | date d => some (text d.text)
  | dateTime t => some (text t.isoText)
  | uuid u => some (text u.text)
  | decimal d => d.toBinary64?.map double
  | member m => some (text m.value)
  | operator op => some (text op.wireName)
  | v => some v

/-- The plain forms of items. -/
def plainItems? : List Value → Option (List Value)
  | [] => some []
  | v :: vs => (plain? v).bind fun w => (plainItems? vs).map (w :: ·)

/-- The entries with the plain forms of their values. -/
def plainEntries? : List (Value × Value) → Option (List (Value × Value))
  | [] => some []
  | (k, v) :: es => (plain? v).bind fun w => (plainEntries? es).map ((k, w) :: ·)

end

mutual

/-- A document as a value. -/
def ofJson : Json → Value
  | .null => null
  | .bool b => bool b
  | .int n => int n
  | .double x => double x
  | .text s => text s
  | .array items => list (ofJsonItems items)
  | .object members => mapping (ofJsonMembers members)

/-- Documents as values. -/
def ofJsonItems : List Json → List Value
  | [] => []
  | item :: items => ofJson item :: ofJsonItems items

/-- The members of an object as entries with text keys. -/
def ofJsonMembers : List (String × Json) → List (Value × Value)
  | [] => []
  | (label, value) :: members => (text label, ofJson value) :: ofJsonMembers members

end

/-- The label of a key in a document: texts, numbers, booleans and null have one. -/
def label? : Value → Option String
  | null => some "null"
  | bool b => some (if b then "true" else "false")
  | int n => some (Text.intText n)
  | double x => some (Json.doubleText x)
  | v => v.asText?

mutual

/-- The value as a document, if it is made of what documents are made of. -/
def toJson? : Value → Option Json
  | null => some .null
  | bool b => some (.bool b)
  | int n => some (.int n)
  | double x => some (.double x)
  | text s => some (.text s)
  | operator op => some (.text op.wireName)
  | list xs => (toJsonItems? xs).map .array
  | tuple xs => (toJsonItems? xs).map .array
  | mapping es => (toJsonMembers? es).map .object
  | _ => none

/-- The items as documents. -/
def toJsonItems? : List Value → Option (List Json)
  | [] => some []
  | v :: vs => (toJson? v).bind fun j => (toJsonItems? vs).map (j :: ·)

/-- The entries as members of an object. -/
def toJsonMembers? : List (Value × Value) → Option (List (String × Json))
  | [] => some []
  | (k, v) :: es =>
    (label? k).bind fun l => (toJson? v).bind fun j => (toJsonMembers? es).map ((l, j) :: ·)

end

end Value

end Winnow
