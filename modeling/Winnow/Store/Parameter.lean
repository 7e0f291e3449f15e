import Winnow.Error
import Winnow.Store.Stored
import Winnow.Value.Plain

/-!
# Winnow.Store.Parameter — what becomes of the parameters of a condition

A parameter has a type before it reaches the store: the type of the column that it is compared with
or, if its own is of another family, its own. The values of a list have one type, which the first of
them decides. A value that has no form of that type is refused; so is one that has none the store
knows.

Where no type says otherwise, integers, doubles and texts go as they are, and days and points of
time as texts.
-/

namespace Winnow

namespace ColumnKind

/-- Doubles and decimals are one family of types, as are texts and the names of members, as are
date-times with and without offsets. -/
def family : ColumnKind → ColumnKind
  | double => decimal
  | dateTime _ => dateTime false
  | enumeration => text
  | kind => kind

end ColumnKind

namespace Value

/-- The type that a value has by itself. -/
def ownKind? : Value → Option ColumnKind
  | bool _ => some .boolean
  | int _ => some .integer
  | double _ => some .double
  | decimal _ => some .decimal
  | text _ => some .text
  | date _ => some .date
  | dateTime _ => some (.dateTime false)
  | uuid _ => some .uuid
  | _ => none

/-- The type of a parameter that is compared with a column of a type. A text is an identifier where
it is compared with identifiers. -/
def comparedKind (kind : ColumnKind) (v : Value) : ColumnKind :=
  match v.ownKind? with
  | none => kind
  | some own =>
    if own.family = kind.family || (own = .text && kind = .uuid) then kind else own

/-- The type of the parameters of a list. -/
def listKind (kind : ColumnKind) : List Value → ColumnKind
  | [] => kind
  | v :: _ => v.comparedKind kind

/-! ## Forms of parameters -/

/-- A text that the store takes, or the refusal of what has none. -/
def storedText (text? : Option String) : Except Error Stored :=
  match text? with
  | some s => .ok (.text s)
  | none => .error .unbindable

/-- A double that the store takes, or the refusal of what has none. -/
def storedDouble (x? : Option Binary64) : Except Error Stored :=
  match x? with
  | some x => .ok (.ofDouble x)
  | none => .error .unbindable

/-- A parameter whose type leaves it as it is. -/
def bindPlain : Value → Except Error Stored
  | null => .ok .null
  | bool b => .ok (.int (if b then 1 else 0))
  | int n => if Stored.fits n then .ok (.int n) else .error .overflow
  | double x => .ok (.ofDouble x)
  | date d => .ok (.text d.text)
  | dateTime t => .ok (.text t.spacedText)
  | v => match v.asText? with
    | some s => .ok (.text s)
    | none => .error .unsupported

/-- A parameter that is one of the two values of truth, or equal to one as a key. -/
def bindBool (v : Value) : Except Error Stored :=
  if v.sameKey (bool true) then .ok (.int 1)
  else if v.sameKey (bool false) then .ok (.int 0)
  else .error .unbindable

/-- A parameter that is a double. -/
def bindDouble : Value → Except Error Stored
  | bool b => .ok (.ofDouble (.ofInt (if b then 1 else 0)))
  | int n => storedDouble (some (.ofInt n) |>.filter (·.isFinite))
  | double x => .ok (.ofDouble x)
  | decimal d => storedDouble d.toBinary64?
  | v => storedDouble (v.asText?.bind fun s => Number.readDouble? s.toList)

/-- A parameter that is a day. -/
def bindDate : Value → Except Error Stored
  | date d => .ok (.text d.text)
  | dateTime t => .ok (.text t.date.text)
  | _ => .error .unbindable

/-- A parameter that is a point of time. A day is its midnight. -/
def bindDateTime : Value → Except Error Stored
  | dateTime t => .ok (.text t.storedText)
  | date d => .ok (.text (DateTime.atMidnight d).storedText)
  | _ => .error .unbindable

/-- A parameter that is an identifier, or shows one in hexadecimal digits. -/
def bindUuid : Value → Except Error Stored
  | uuid u => .ok (.text u.hex)
  | object attributes => match attributes.lookup "hex" with
    | some v => v.bindPlain
    | none => .error .unbindable
  | double _ => .error .unsupported
  | _ => .error .unbindable

/-- A parameter that is a document. -/
def bindDocument (v : Value) : Except Error Stored :=
  storedText (v.toJson?.map fun j => j.write Json.spaced)

/-- A parameter that is a member of an enumeration, or the name of one. -/
def bindMember : Value → Except Error Stored
  | member m => .ok (.text m.name)
  | v => storedText v.asText?

/-- A parameter of a type as the store takes it, or why it does not. Null is no document, but there
is a document that is null. -/
def bind (kind : ColumnKind) (v : Value) : Except Error Stored :=
  match kind, v with
  | .document, v => v.bindDocument
  | _, null => .ok .null
  | .boolean, v => v.bindBool
  | .double, v => v.bindDouble
  | .decimal, v => v.bindDouble
  | .date, v => v.bindDate
  | .dateTime _, v => v.bindDateTime
  | .uuid, v => v.bindUuid
  | .enumeration, v => v.bindMember
  | _, v => v.bindPlain

end Value

end Winnow
