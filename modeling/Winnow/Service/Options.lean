import Winnow.Service.Search

/-!
# Winnow.Service.Options — rows as choices

The rows of a resource are offered as choices: pairs of a label and a value, each the cell of a
column, ordered by label. A request filters and caps them; its order and its pages do not matter
here.
-/

namespace Winnow.Resource

/-- The column that a request names, or the error that there is none. -/
def requireColumn (m : Model) (name : String) : Except Error Column :=
  match m.column? (Text.snakeCase name) with
  | some c => .ok c
  | none => .error (.unknownColumn m.name name)

/-- The plain form of a cell, which a signalling decimal has not. -/
def plainCell (c : Cell) : Except Error Value :=
  match c.read.plain? with
  | some v => .ok v
  | none => .error .meaningless

/-- The choice that a row is. -/
def rowChoice (label value : Column) (r : Row) : Except Error Value := do
  return OptionEdit.choice (← plainCell (r.cell label.name)) (← plainCell (r.cell value.name))

/-- The selection of the rows that are choices, ordered by a column. -/
def optionSelection (r : Resource) (db : Database) (label : Column) (q : SearchRequest) :
    Except Error Selection := do
  let s ← r.filtered db r.optionsScope q
  let s ← s.call db.schema (.orderBy label.name "ASC")
  s.callAll? db.schema (capCalls q)

/-- The answer to a request for choices, where null and the empty text name no column. -/
def options (r : Resource) (db : Database) (label? value? : Option String) (q : SearchRequest) :
    Except Error Value := do
  let label := label?.getD ""
  if Text.isAllBlank label then .error .missingLabel
  else
    let labelColumn ← requireColumn r.model label
    let valueColumn ← requireColumn r.model (orDefault value? Settings.optionValue)
    let s ← r.optionSelection db labelColumn q
    let rows ← (← s.all db).mapM (rowChoice labelColumn valueColumn)
    return answer (r.optionEdits.foldl OptionEdit.apply rows) []

end Winnow.Resource
