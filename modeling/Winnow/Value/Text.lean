import Winnow.Value
import Winnow.Number.Digits

/-!
# Winnow.Value.Text — values in text

A value has two forms in text. Its display form stands alone; its literal form stands inside a
container or a message and shows the type. A container displays its items in their literal form. The
two forms differ only for texts, decimals, dates, date-times, identifiers and members of
enumerations.
-/

namespace Winnow

open Winnow.Text (quoted intText)

/-- The literal form of the offset of a zone. -/
def Offset.literal (o : Offset) : String :=
  if o.micros = 0 then "datetime.timezone.utc"
  else
    let days := Int.fdiv o.micros Calendar.dayMicros
    let rest := (o.micros - days * Calendar.dayMicros).toNat
    let parts :=
      (if days = 0 then [] else ["days=" ++ intText days]) ++
      (if rest / 1000000 = 0 then [] else ["seconds=" ++ intText (rest / 1000000)]) ++
      (if rest % 1000000 = 0 then [] else ["microseconds=" ++ intText (rest % 1000000)])
    "datetime.timezone(datetime.timedelta(" ++ ", ".intercalate parts ++ "))"

/-- The literal form of a date. -/
def Date.literal (d : Date) : String :=
  "datetime.date(" ++ ", ".intercalate ([d.year, d.month, d.day].map toString) ++ ")"

/-- The literal form of a date-time: seconds and microseconds only as far as they are needed. -/
def DateTime.literal (t : DateTime) : String :=
  let seconds := if t.time.micro ≠ 0 then [t.time.second, t.time.micro]
    else if t.time.second ≠ 0 then [t.time.second] else []
  let numbers := [t.date.year, t.date.month, t.date.day, t.time.hour, t.time.minute] ++ seconds
  let zone := match t.offset with
    | some o => ["tzinfo=" ++ o.literal]
    | none => []
  "datetime.datetime(" ++ ", ".intercalate (numbers.map toString ++ zone) ++ ")"

namespace Value

/-- The text of a boolean. -/
def boolText (b : Bool) : String := if b then "True" else "False"

/-- A tuple's items between parentheses: a single one keeps its comma. -/
def tupleText : List String → String
  | [s] => "(" ++ s ++ ",)"
  | ss => "(" ++ ", ".intercalate ss ++ ")"

/-- A set's items between braces. -/
def setText : List String → String
  | [] => "set()"
  | ss => "\x7b" ++ ", ".intercalate ss ++ "\x7d"

mutual

/-- The literal form of a value. -/
def literal : Value → String
  | null => "None"
  | bool b => boolText b
  | int n => intText n
  | double x => x.text
  | decimal d => "Decimal('" ++ d.text ++ "')"
  | text s => quoted s
  | date d => d.literal
  | dateTime t => t.literal
  | uuid u => "UUID('" ++ u.text ++ "')"
  | member m => "<" ++ m.enumeration.name ++ "." ++ m.name ++ ": " ++ quoted m.value ++ ">"
  | operator op => "<SearchOperator." ++ op.memberName ++ ": " ++ quoted op.wireName ++ ">"
  | list xs => "[" ++ ", ".intercalate (literals xs) ++ "]"
  | tuple xs => tupleText (literals xs)
  | set xs => setText (literals xs)
  | mapping es => "\x7b" ++ ", ".intercalate (entryLiterals es) ++ "\x7d"
  | object attributes => "namespace(" ++ ", ".intercalate (attributeLiterals attributes) ++ ")"
  | row model key => "<" ++ model ++ " " ++ intText key ++ ">"

/-- The literal forms of items. -/
def literals : List Value → List String
  | [] => []
  | v :: vs => literal v :: literals vs

/-- The literal forms of entries: key, colon, value. -/
def entryLiterals : List (Value × Value) → List String
  | [] => []
  | (k, v) :: es => (literal k ++ ": " ++ literal v) :: entryLiterals es

/-- The literal forms of attributes: name, equals sign, value. -/
def attributeLiterals : List (String × Value) → List String
  | [] => []
  | (name, v) :: more => (name ++ "=" ++ literal v) :: attributeLiterals more

end

/-- The display form of a value. -/
def display : Value → String
  | text s => s
  | decimal d => d.text
  | date d => d.text
  | dateTime t => t.spacedText
  | uuid u => u.text
  | member m => m.enumeration.name ++ "." ++ m.name
  | operator op => "SearchOperator." ++ op.memberName
  | v => literal v

/-- The display form of a value that says something, and no text for one that does not count. -/
def displayOrEmpty (v : Value) : String := if v.isTruthy then v.display else ""

end Value

end Winnow
