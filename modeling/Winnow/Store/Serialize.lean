import Winnow.Error
import Winnow.Store.Database
import Winnow.Text.Split

/-!
# Winnow.Store.Serialize — rows as answers carry them

A row is turned into a value by one of the serializers that its model names. What a serializer or an
export shows of a row is found by paths: names between points, each looked up in what the one before
it led to. Where there is nothing there is null.
-/

namespace Winnow

namespace Value

/-- The attributes of a member of an enumeration: name, value and place, then its siblings. -/
def memberAttributes (name value : String) (place : Nat) (siblings : List (String × Value)) :
    List (String × Value) :=
  [("name", .text name), ("value", .text value), ("_name_", .text name), ("_value_", .text value),
    ("_sort_order_", .int place)] ++ siblings

/-- The attributes of an integer. -/
def intAttributes (n : Int) : List (String × Value) :=
  [("real", .int n), ("imag", .int 0), ("numerator", .int n), ("denominator", .int 1)]

/-- The attributes of a day. -/
def dayAttributes (d : Date) : List (String × Value) :=
  [("year", .int d.year), ("month", .int d.month), ("day", .int d.day)]

/-- The attributes of a time of day. -/
def timeAttributes (t : TimeOfDay) : List (String × Value) :=
  [("hour", .int t.hour), ("minute", .int t.minute), ("second", .int t.second),
    ("microsecond", .int t.micro), ("fold", .int 0)]

/-- The attributes of an identifier: its forms, its parts, its layout and version. -/
def uuidAttributes (u : Uuid) : List (String × Value) :=
  [("hex", .text u.hex), ("int", .int u.number), ("urn", .text u.urn),
    ("fields", .tuple (u.parts.map fun (n : Nat) => .int n)), ("time_low", .int u.timeLow),
    ("time_mid", .int u.timeMid), ("time_hi_version", .int u.timeHigh),
    ("clock_seq_hi_variant", .int u.clockHigh), ("clock_seq_low", .int u.clockLow),
    ("time", .int u.time), ("clock_seq", .int u.clock), ("node", .int u.node),
    ("variant", .text u.variant.text),
    ("version", (u.version?.map fun n => Value.int n).getD .null)]

/-- The attributes of a value other than a row. Lists, texts and mappings have none. -/
def attributes : Value → List (String × Value)
  | .object attributes =>
    attributes ++ [("__dict__", .mapping (attributes.map fun a => (.text a.1, a.2)))]
  | .member m =>
    memberAttributes m.name m.value (m.enumeration.all.idxOf m)
      (m.enumeration.all.map fun s => (s.name, .member s))
  | .operator op =>
    memberAttributes op.memberName op.wireName (Operator.all.idxOf op)
      (Operator.all.map fun s => (s.memberName, .operator s))
  | .bool b => intAttributes (if b then 1 else 0)
  | .int n => intAttributes n
  | .double x => [("real", .double x), ("imag", .double (.zero false))]
  | .decimal d => [("real", .decimal d), ("imag", .decimal (.finite false 0 0))]
  | .date d => dayAttributes d ++ [("min", .date .first), ("max", .date .last)]
  | .dateTime t =>
    dayAttributes t.date ++ timeAttributes t.time ++
      [("min", .dateTime .first), ("max", .dateTime .last)]
  | .uuid u => uuidAttributes u
  | _ => []

/-- What a value other than a row shows under a name: a mapping what it holds under the name, any
other value its attribute. -/
def attribute? (v : Value) (name : String) : Option Value :=
  match v with
  | .mapping entries => field? name entries
  | v => v.attributes.lookup name

end Value

namespace Database

/-- What a value shows under a name. -/
def look? (db : Database) (v : Value) (name : String) : Option Value :=
  match v with
  | .row model key => db.attributeOf? model key name
  | v => v.attribute? name

/-- What names lead to, one after the other; null if one of them leads to nothing. -/
def follow (db : Database) (v : Value) : List String → Value
  | [] => v
  | name :: names => match db.look? v name with
    | none => .null
    | some .null => .null
    | some w => follow db w names

/-- What a path with points between its names leads to. -/
def nested (db : Database) (v : Value) (path : String) : Value := db.follow v (Text.split '.' path)

/-- The columns of a row that are not hidden, in plain form; nothing if one of them has none. -/
def recordOf? (m : Model) (r : Row) : Option Value :=
  (Value.plainEntries? ((m.columns.filter fun c => !m.hidden.contains c.name).map fun c =>
    (.text c.name, (r.cell c.name).read))).map .mapping

/-- A row as its model's serializer of this name shows it. -/
def serialize (db : Database) (m : Model) (name : String) (r : Row) : Except Error Value :=
  match m.serializer? name with
  | none => .error (.noSerializer m.name name)
  | some .record => match recordOf? m r with
    | some v => .ok v
    | none => .error .meaningless
  | some .itself => .ok (.row m.name r.key)
  | some (.fields entries) =>
    .ok (.mapping (entries.map fun e => (.text e.1, db.nested (.row m.name r.key) e.2)))

end Database

end Winnow
