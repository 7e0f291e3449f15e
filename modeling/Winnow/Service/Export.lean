import Winnow.Csv
import Winnow.Service.Search

/-!
# Winnow.Service.Export — rows as a table in text

An export gives the rows of a search as lines of CSV: a line of titles, if the resource declares
titles, and one line for each row. It has its own scope, its own serializer and pages of its own
size, large enough for all rows.
-/

namespace Winnow.Resource

/-- A cell as it is exported: members of enumerations by their values. -/
def exportValue : Value → Value
  | .member m => .text m.value
  | .operator op => .text op.wireName
  | v => v

/-- What an exported row shows at a path, which must be a text. -/
def exportCell (db : Database) (row path : Value) : Except Error Value :=
  match path.asText? with
  | some path => .ok (exportValue (db.nested row path))
  | none => .error .noAttribute

/-- The line of an exported row. -/
def exportLine (db : Database) (paths : List Value) (row : Value) : Except Error String := do
  return Csv.line (← paths.mapM (exportCell db row))

/-- The line of titles, if there are titles. -/
def titleLines (c : CsvColumns) : List String :=
  if c.titles.isEmpty then [] else [Csv.line c.titles]

/-- The rows that an export gives. -/
def exportPage (r : Resource) (db : Database) (q : SearchRequest) : Except Error Paginator := do
  paginate db (← r.selection db r.exportScope q) (.int Settings.exportPerPage) r.exportSerializer q

/-- The lines of an export. -/
def exportLines (r : Resource) (db : Database) (q : SearchRequest) :
    Except Error (List String) := do
  let p ← r.exportPage db q
  let columns ← CsvColumns.ofValue r.csvColumns
  return titleLines columns ++ (← p.rows.mapM (exportLine db columns.paths))

/-- The name of the file of an export, which begins with a stamp. -/
def exportName (r : Resource) (stamp : String) : String := stamp ++ r.csvFile

end Winnow.Resource
