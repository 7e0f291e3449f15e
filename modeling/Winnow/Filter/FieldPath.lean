import Winnow.Error
import Winnow.Settings
import Winnow.Text.SnakeCase
import Winnow.Value.Text

/-!
# Winnow.Filter.FieldPath — fields through relations

A field path is what the key of a filter names: a column, reached through any number of relations.
Keys are written with points between the parts, and each part may have humps. At the end of a path
through relations `id` stands for the column of external identifiers, so that keys of tables are not
shown.
-/

namespace Winnow

/-- The snake-case form of a value that names a field. -/
def Value.snakeCase (v : Value) : String := Text.snakeCase v.displayOrEmpty

/-- A column and the relations that lead to its table, the outermost first. -/
structure FieldPath where
  relations : List String
  column : String
  deriving DecidableEq

namespace FieldPath

/-- Does the path lead through relations? -/
def isRelation (p : FieldPath) : Bool := !p.relations.isEmpty

/-- The path without its first relation. -/
def descend (p : FieldPath) : FieldPath := ⟨p.relations.tail, p.column⟩

/-- The written form: points between relations and column. -/
def text (p : FieldPath) : String := ".".intercalate (p.relations ++ [p.column])

/-- The path with these parts, the last of which is the column. -/
def ofSegments (externalId : String) (segments : List String) : FieldPath :=
  let relations := segments.dropLast
  let column := segments.getLast?.getD ""
  ⟨relations, if !relations.isEmpty && column == "id" then externalId else column⟩

/-- The parts of a written path in snake case. -/
def segments (s : String) : List String := (Text.split '.' (Text.trim s)).map Text.snakeCase

/-- The path that the key of a filter spells, where `externalId` is the column of external
identifiers. -/
def read (externalId : String) (key : Value) : Except Error FieldPath :=
  let parts := segments key.displayOrEmpty
  if parts.any (·.isEmpty) then .error (.invalidField key.display)
  else .ok (ofSegments externalId parts)

end FieldPath

end Winnow
