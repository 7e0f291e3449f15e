import Winnow.Error
import Winnow.Json.Path
import Winnow.Json.Reader
import Winnow.Store.Stored
import Winnow.Value.Plain

/-!
# Winnow.Store.Database — rows and their relations

A database holds the rows of the tables of a schema. The rows of a table stand in the order in which
it yields them when no other order is asked for. What a row shows under a name is the value of the
column of that name or, for a relation, the related row or rows; besides, every row shows what its
model says of the table.
-/

namespace Winnow

/-- The content of a cell. -/
inductive Cell where
  | null
  | value (v : Value)
  | document (j : Json)
  deriving Inhabited

namespace Cell

/-- The cell as a value. The store keeps no offsets, so date-times come back without them. -/
def read : Cell → Value
  | null => .null
  | value (.dateTime t) => .dateTime t.wall
  | value v => v
  | document j => .ofJson j

/-- The cell as the store keeps it. -/
def stored : Cell → Stored
  | null => .null
  | document j => .text (j.write Json.spaced)
  | value v => v.stored

/-- What is found under a key of the document in a cell. The text of any other cell is read as a
document; nothing is found in a cell that has no text. -/
def lookup (c : Cell) (key : String) : Except Error (Option Json) :=
  let found (doc : Json) : Except Error (Option Json) := match doc.lookup key with
    | .place doc => .ok (some doc)
    | .nowhere => .ok none
    | .malformed => .error .malformedPath
  match c with
  | document j => found j
  | c => match c.stored.asText? with
    | none => .ok none
    | some s => match Json.read? s with
      | some doc => found doc
      | none => .error .malformedDocument

/-- Is there nothing in the cell? -/
def isNull (c : Cell) : Bool := c.stored == .null

end Cell

/-- A row: its key, which is the cell of the column `id`, and its other cells by the names of their
columns. -/
structure Row where
  key : Int
  cells : List (String × Cell)
  deriving Inhabited

namespace Row

/-- The cell of a column. -/
def cell (r : Row) (column : String) : Cell :=
  if column = keyColumn then .value (.int r.key)
  else ((r.cells.find? (·.1 == column)).map Prod.snd).getD .null

/-- The key of another row that a cell holds. -/
def reference? (r : Row) (column : String) : Option Int :=
  match r.cell column with
  | .value (.int n) => some n
  | _ => none

end Row

/-- The models of a store, and the rows of its tables by their names. -/
structure Database where
  schema : Schema
  tables : List (String × List Row)

namespace Database

/-- The rows of the table of a model. -/
def rows (db : Database) (m : Model) : List Row :=
  ((db.tables.find? (·.1 == m.table)).map Prod.snd).getD []

/-- Is `other`, a row of the other table, related to `r`? -/
def related (rel : Relation) (r other : Row) : Bool :=
  if rel.toMany then other.reference? rel.column == some r.key
  else r.reference? rel.column == some other.key

/-- The rows related to a row, where `target` is the other model. -/
def relatedRows (db : Database) (rel : Relation) (target : Model) (r : Row) : List Row :=
  (db.rows target).filter (related rel r)

/-- The related row or rows that a row shows under the name of a relation. -/
def relatedValue (db : Database) (rel : Relation) (r : Row) : Value :=
  let others : List Value := match db.schema.model? rel.target with
    | some target => (db.relatedRows rel target r).map fun other => .row target.name other.key
    | none => []
  if rel.toMany then .list others else others.head?.getD .null

/-- What every row of a model shows: the table and the columns that records leave out. -/
def modelAttributes (m : Model) : List (String × Value) :=
  [("__tablename__", .text m.table), ("__table__", .text m.table),
    ("hidden_fields", .tuple (m.hidden.map fun name => .text name))]

/-- What a row shows under a name. -/
def attribute? (db : Database) (m : Model) (r : Row) (name : String) : Option Value :=
  match m.column? name with
  | some c => some (r.cell c.name).read
  | none => match m.relation? name with
    | some rel => some (db.relatedValue rel r)
    | none => (modelAttributes m).lookup name

/-- What the row with a key shows under a name. -/
def attributeOf? (db : Database) (model : String) (key : Int) (name : String) : Option Value :=
  (db.schema.model? model).bind fun m =>
    ((db.rows m).find? (·.key == key)).bind fun r => db.attribute? m r name

end Database

end Winnow
