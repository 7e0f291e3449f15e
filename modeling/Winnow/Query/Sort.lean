import Winnow.Query.Call
import Winnow.Text.SnakeCase
import Winnow.Text.Split
import Winnow.Value.Text

/-!
# Winnow.Query.Sort — sort texts and caps

A sort text names fields between commas, the primary key first; a dash before a name makes it
descend. Pieces without a name are passed over.
-/

namespace Winnow

/-- One key of a requested order: a field, and whether it descends. -/
structure SortClause where
  field : String
  descending : Bool
  deriving DecidableEq

namespace SortClause

/-- The name of the direction. -/
def direction (c : SortClause) : String := if c.descending then "DESC" else "ASC"

/-- The clause that one piece of a sort text spells. -/
def ofToken? (token : List Char) : Option SortClause :=
  match Text.trimChars token with
  | [] => none
  | '-' :: rest =>
    let name := String.ofList (Text.snakeChars rest)
    if name.isEmpty then none else some ⟨name, true⟩
  | cs => some ⟨String.ofList (Text.snakeChars cs), false⟩

/-- The clauses that a sort text spells. -/
def read (s : String) : List SortClause := (Text.splitChars ',' s.toList).filterMap ofToken?

/-- The clauses of a sort parameter. -/
def ofValue (v : Value) : List SortClause := read v.displayOrEmpty

/-- The call that orders by the clause. -/
def call (c : SortClause) : Call := .orderBy c.field c.direction

end SortClause

/-- The calls of a sort parameter. -/
def Value.sortCalls (v : Value) : List Call := (SortClause.ofValue v).map (·.call)

/-- The calls of a cap: a positive integer limits, all else does not. -/
def Value.capCalls : Value → List Call
  | .int n => if 0 < n then [.limit n] else []
  | _ => []

end Winnow
