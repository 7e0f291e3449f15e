import Winnow.Calendar.DateTime
import Winnow.Filter.Operator
import Winnow.Number.Decimal
import Winnow.Uuid

/-!
# Winnow.Value — dynamic values

Filter arguments, the cells of rows and the answers of actions are values of many types, and which
type a value has is known only when it is there. Mappings keep the order of their entries; two keys
are the same if they are equal as values, where numbers are equal by what they stand for (and `true`
stands for one), and date-times with offsets if they are the same moment.
-/

namespace Winnow

/-- A declared enumeration: the names of its members with their values, in the order of declaration.
-/
structure Enumeration where
  name : String
  members : List (String × String)
  deriving DecidableEq, Inhabited

/-- A member of a declared enumeration. -/
structure EnumMember where
  enumeration : Enumeration
  name : String
  value : String
  deriving DecidableEq, Inhabited

/-- The members of an enumeration. -/
def Enumeration.all (e : Enumeration) : List EnumMember := e.members.map fun m => ⟨e, m.1, m.2⟩

/-- A dynamic value. -/
inductive Value where
  | null
  | bool (b : Bool)
  | int (n : Int)
  | double (x : Binary64)
  | decimal (d : Decimal)
  | text (s : String)
  | date (d : Date)
  | dateTime (t : DateTime)
  | uuid (u : Uuid)
  /-- A member of an enumeration. -/
  | member (m : EnumMember)
  /-- A filter operator that has been read already. It also counts as the text of its wire name. -/
  | operator (op : Operator)
  | list (items : List Value)
  | tuple (items : List Value)
  | set (items : List Value)
  /-- A mapping with distinct keys, in the order of their first appearance. -/
  | mapping (entries : List (Value × Value))
  /-- Something with attributes that is not a mapping. -/
  | object (attributes : List (String × Value))
  /-- A row of a table: the name of its model and its key. -/
  | row (model : String) (key : Int)
  deriving Inhabited

namespace Value

/-- The text of a value that counts as text. -/
def asText? : Value → Option String
  | text s => some s
  | operator op => some op.wireName
  | _ => none

/-- Does the value count as text? -/
def isText (v : Value) : Bool := v.asText?.isSome

/-- The items of a list, a tuple or a set. -/
def items? : Value → Option (List Value)
  | list xs => some xs
  | tuple xs => some xs
  | set xs => some xs
  | _ => none

/-- What a value yields one by one: the items of a list, a tuple or a set, the characters of a text,
the keys of a mapping. -/
def iterated? (v : Value) : Option (List Value) :=
  match v with
  | mapping es => some (es.map Prod.fst)
  | v => match v.items? with
    | some xs => some xs
    | none => v.asText?.map fun s => s.toList.map fun c => text (String.ofList [c])

/-- The entries of a mapping. -/
def entries? : Value → Option (List (Value × Value))
  | mapping es => some es
  | _ => none

/-- The integer that a value stands for where integers and booleans are one. -/
def asInt? : Value → Option Int
  | bool b => some (if b then 1 else 0)
  | int n => some n
  | _ => none

/-- Does the value count as something? Null, false, zeros, the empty text and empty containers do
not. -/
def isTruthy : Value → Bool
  | null => false
  | bool b => b
  | int n => n != 0
  | double x => !x.isZero
  | decimal d => !d.isZero
  | text s => !s.isEmpty
  | list xs => !xs.isEmpty
  | tuple xs => !xs.isEmpty
  | set xs => !xs.isEmpty
  | mapping es => !es.isEmpty
  | _ => true

/-- A blank argument says nothing: null, a text of blanks only, an empty container. -/
def isBlank : Value → Bool
  | null => true
  | text s => Text.isAllBlank s
  | list xs => xs.isEmpty
  | tuple xs => xs.isEmpty
  | set xs => xs.isEmpty
  | mapping es => es.isEmpty
  | _ => false

/-- A text without the blanks at its ends; other values unchanged. -/
def trimmed (v : Value) : Value :=
  match v.asText? with
  | some s => text (Text.trim s)
  | none => v

/-! ## Equality of keys -/

/-- What a number is compared by: a quotient of an integer and a positive number, or an infinity. -/
inductive Magnitude where
  | quotient (num : Int) (den : Nat)
  | infinite (negative : Bool)

/-- Are the two magnitudes equal? -/
def Magnitude.same : Magnitude → Magnitude → Bool
  | quotient a b, quotient c d => a * d == c * b
  | infinite a, infinite b => a == b
  | _, _ => false

/-- The magnitude of a number; none for what is not a number. -/
def magnitude? : Value → Option Magnitude
  | bool b => some (.quotient (if b then 1 else 0) 1)
  | int n => some (.quotient n 1)
  | double (.finite neg m q) =>
    let (num, den) := Binary64.scaled m q
    some (.quotient (if neg then -(num : Int) else num) den)
  | double (.infinite neg) => some (.infinite neg)
  | decimal (.infinite neg) => some (.infinite neg)
  | decimal d => d.ratio?.map fun r => .quotient r.1 r.2
  | _ => none

mutual

/-- Are the two values the same key? -/
def sameKey : Value → Value → Bool
  | null, null => true
  | date a, date b => a == b
  | dateTime a, dateTime b => a.sameMoment b
  | uuid a, uuid b => a == b
  | member a, member b => a == b
  | tuple xs, tuple ys => sameKeys xs ys
  | row a i, row b j => a == b && i == j
  | a, b =>
    match a.asText?, b.asText? with
    | some s, some t => s == t
    | none, none => match a.magnitude?, b.magnitude? with
      | some x, some y => x.same y
      | _, _ => false
    | _, _ => false

/-- Are the two lists the same keys, one by one? -/
def sameKeys : List Value → List Value → Bool
  | [], [] => true
  | x :: xs, y :: ys => sameKey x y && sameKeys xs ys
  | _, _ => false

end

mutual

/-- Can the value be a key? What can change cannot, nor can a signalling decimal, which is equal to
nothing. -/
def isKey : Value → Bool
  | list _ => false
  | set _ => false
  | mapping _ => false
  | object _ => false
  | tuple xs => areKeys xs
  | decimal (.nan _ signalling _) => !signalling
  | _ => true

/-- Can all the values be keys? -/
def areKeys : List Value → Bool
  | [] => true
  | v :: vs => isKey v && areKeys vs

end

/-! ## Entries of a mapping -/

/-- The value under a key. -/
def lookup? (key : Value) (entries : List (Value × Value)) : Option Value :=
  (entries.find? fun e => sameKey e.1 key).map Prod.snd

/-- Put a value under a key: in the place of the key if it is there, otherwise at the end. -/
def insert (entries : List (Value × Value)) (key value : Value) : List (Value × Value) :=
  match entries with
  | [] => [(key, value)]
  | e :: rest => if sameKey e.1 key then (e.1, value) :: rest else e :: insert rest key value

/-- Drop the entry under a key, if there is one. -/
def erase (entries : List (Value × Value)) (key : Value) : List (Value × Value) :=
  entries.filter fun e => !sameKey e.1 key

/-- The entries of a mapping that is written down pair by pair: a repeated key keeps its first place
and its last value. -/
def ofPairs (pairs : List (Value × Value)) : List (Value × Value) :=
  pairs.foldl (fun es p => insert es p.1 p.2) []

/-- The value under a text key. -/
def field? (key : String) (entries : List (Value × Value)) : Option Value :=
  lookup? (text key) entries

end Value

end Winnow
