import Winnow.Value

/-!
# Winnow.Store.Schema — models, columns and relations

A model declares a table: its columns, each of one kind, and its relations to other models. Every
table has the column `id`, the key of its rows. A relation is carried by a column that holds the key
of a row of the other table: *to one* if the column is in the model's own table, *to many* if it is
in the other one.
-/

namespace Winnow

/-- The type of the cells of a column. -/
inductive ColumnKind where
  | boolean
  | integer
  | double
  | decimal
  | date
  /-- Date-times; `zoned` columns take none without an offset. -/
  | dateTime (zoned : Bool)
  | uuid
  | text
  /-- Documents. -/
  | document
  /-- Members of an enumeration, stored by their names. -/
  | enumeration
  /-- Anything else; arguments are taken as they are. -/
  | other
  deriving DecidableEq

/-- A column of a table, with the type of its cells. -/
structure Column where
  name : String
  kind : ColumnKind
  deriving DecidableEq

/-- The name of the column that holds the keys of a table. -/
def keyColumn : String := "id"

/-- A relation from a model to the one named `target`. The column holds the key: it is one of the
other table if a row can have several related rows, otherwise one of the own. -/
structure Relation where
  name : String
  target : String
  toMany : Bool
  column : String
  deriving DecidableEq

/-- How a row is turned into a value. -/
inductive Serializer where
  /-- All columns but the hidden ones, in plain form. -/
  | record
  /-- The row itself. -/
  | itself
  /-- Labels with the paths of what stands under them. -/
  | fields (entries : List (String × String))
  deriving DecidableEq

/-- A declared table. The columns stand in the order of records, which leave out the hidden ones. In
a unique column no two rows have the same cell; the key is always one. -/
structure Model where
  name : String
  table : String
  columns : List Column
  relations : List Relation
  unique : List String
  hidden : List String
  serializers : List (String × Serializer)
  deriving DecidableEq

namespace Model

/-- The column of this name. -/
def column? (m : Model) (name : String) : Option Column := m.columns.find? (·.name == name)

/-- The relation of this name. -/
def relation? (m : Model) (name : String) : Option Relation := m.relations.find? (·.name == name)

/-- The serializer of this name. -/
def serializer? (m : Model) (name : String) : Option Serializer :=
  (m.serializers.find? (·.1 == name)).map Prod.snd

/-- Does a cell of the column of this name tell rows apart? -/
def isUnique (m : Model) (name : String) : Bool := name == keyColumn || m.unique.contains name

theorem column?_name {m : Model} {name : String} {c : Column} (h : m.column? name = some c) :
    c.name = name := by
  have := List.find?_some h
  simpa using this

theorem relation?_name {m : Model} {name : String} {rel : Relation}
    (h : m.relation? name = some rel) : rel.name = name := by
  have := List.find?_some h
  simpa using this

end Model

/-- The models of a store. -/
abbrev Schema := List Model

/-- The model of this name. -/
def Schema.model? (s : Schema) (name : String) : Option Model := s.find? (·.name == name)

end Winnow
