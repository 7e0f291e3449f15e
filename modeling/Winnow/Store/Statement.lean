import Winnow.Store.Alternative
import Winnow.Store.Selection

/-!
# Winnow.Store.Statement — selections as SQL

A selection in text: what follows the name of its table, and the parameters in the order of their
marks, as values before the store converts them.
-/

namespace Winnow

/-- A phrase of SQL with its parameters: its text has a question mark for each of them. -/
structure Phrase where
  sql : String
  params : List Value

namespace Phrase

/-- A phrase without parameters. -/
def plain (sql : String) : Phrase := ⟨sql, []⟩

/-- A phrase between parentheses. -/
def parenthesised (f : Phrase) : Phrase := ⟨"(" ++ f.sql ++ ")", f.params⟩

/-- One phrase after the other. -/
def append (a b : Phrase) : Phrase := ⟨a.sql ++ b.sql, a.params ++ b.params⟩

instance : Append Phrase := ⟨append⟩

/-- Phrases with a text between any two neighbours. -/
def join (separator : String) (fs : List Phrase) : Phrase :=
  ⟨separator.intercalate (fs.map (·.sql)), (fs.map (·.params)).flatten⟩

/-- A mark for each of several parameters. -/
def marks (vs : List Value) : Phrase := ⟨", ".intercalate (vs.map fun _ => "?"), vs⟩

/-- Phrases are put together with `OR` and `AND`. -/
def grouping : Grouping Phrase := ⟨join " OR ", join " AND ", parenthesised⟩

end Phrase

namespace Condition

/-- A test for equality. Null and booleans have forms without a parameter. -/
def equalityPhrase (subject : Phrase) : Value → Phrase
  | .null => subject ++ .plain " IS NULL"
  | .bool b => subject ++ .plain (if b then " = 1" else " = 0")
  | v => subject ++ ⟨" = ?", [v]⟩

/-- The values of a list between parentheses. The empty list is a query without rows. -/
def listPhrase (vs : List Value) : Phrase :=
  if vs.isEmpty then .plain "(SELECT 1 FROM (SELECT 1) WHERE 1!=1)"
  else (Phrase.marks vs).parenthesised

/-- The alternatives of a search in a document, where `n` aliases are in use; and how many are
afterwards. -/
def documentAlternatives (name : String) (form : DocumentForm) (key : String) (v : Value)
    (n : Nat) : List (Alternative Phrase) × Nat :=
  let path : Value := .text ("$." ++ key)
  let atPath := equalityPhrase ⟨"json_extract(" ++ name ++ ", ?)", [path]⟩ v
  match form with
  | .containment =>
    let contains (doc : Value) : Alternative Phrase :=
      .comparison ⟨"(CAST(" ++ name ++ " AS JSONB) @> ?)", [.mapping [(.text key, doc)]]⟩
    ([contains v, contains (.list [v])], n)
  | .function =>
    let doc := ((v.toJson?.map fun j => j.write Json.spaced).getD "")
    ([.comparison ⟨"json_contains(" ++ name ++ ", ?, ?) = ?", [.text doc, path, .int 1]⟩], n)
  | .elements =>
    let nick := "anon_" ++ toString (n + 1)
    let each : Phrase :=
      ⟨"EXISTS (SELECT " ++ nick ++ ".value FROM json_each(" ++ name ++ ", ?) AS " ++ nick ++
        " WHERE ", [path]⟩
    let element := each ++ equalityPhrase (.plain (nick ++ ".value")) v ++ .plain ")"
    ([.comparison atPath, .existence element], n + 1)
  | .extract => ([.comparison atPath], n)

/-- The columns that a relation ties together, the key first. -/
def joinText (table : String) (relation : Relation) (target : Model) : String :=
  let (one, many) := if relation.toMany then (table, target.table) else (target.table, table)
  one ++ "." ++ keyColumn ++ " = " ++ many ++ "." ++ relation.column

mutual

/-- The alternatives that a condition on the rows of a table consists of, where `n` aliases are in
use; and how many are afterwards. -/
def alternatives (table : String) (n : Nat) : Condition → List (Alternative Phrase) × Nat
  | isNull c => ([.comparison (.plain (table ++ "." ++ c.name ++ " IS NULL"))], n)
  | notNull c => ([.comparison (.plain (table ++ "." ++ c.name ++ " IS NOT NULL"))], n)
  | flag c negated b =>
    let test := (if negated then " != " else " = ") ++ (if b then "1" else "0")
    ([.comparison (.plain (table ++ "." ++ c.name ++ test))], n)
  | compare c comparison v =>
    ([.comparison ⟨table ++ "." ++ c.name ++ " " ++ comparison.symbol ++ " ?", [v]⟩], n)
  | among c vs => ([.comparison (.plain (table ++ "." ++ c.name ++ " IN ") ++ listPhrase vs)], n)
  | notAmong c vs =>
    let test : Phrase := .plain (table ++ "." ++ c.name ++ " NOT IN ") ++ listPhrase vs
    ([.comparison test.parenthesised], n)
  | like c pattern foldCase =>
    let name := table ++ "." ++ c.name
    let sql := if foldCase then "lower(" ++ name ++ ") LIKE lower(?)" else name ++ " LIKE ?"
    ([.comparison ⟨sql, [.text pattern]⟩], n)
  | between c lower upper =>
    ([.comparison ⟨table ++ "." ++ c.name ++ " BETWEEN ? AND ?", [lower, upper]⟩], n)
  | documentHas c form key v => documentAlternatives (table ++ "." ++ c.name) form key v n
  | any conditions =>
    let (parts, n) := alternativesOfAll table n conditions
    (parts.flatten, n)
  | has relation target conditions =>
    let (parts, n) := alternativesOfAll target.table n conditions
    let tie : Phrase := .plain (joinText table relation target)
    let body := Phrase.grouping.tied tie parts
    let begin : Phrase := .plain ("EXISTS (SELECT 1 FROM " ++ target.table ++ " WHERE ")
    ([.existence (begin ++ body ++ .plain ")")], n)

/-- The alternatives of several conditions. -/
def alternativesOfAll (table : String) (n : Nat) :
    List Condition → List (List (Alternative Phrase)) × Nat
  | [] => ([], n)
  | c :: cs =>
    let (first, n) := alternatives table n c
    let (rest, n) := alternativesOfAll table n cs
    (first :: rest, n)

end

end Condition

namespace OrderKey

/-- The text of a key of the order. -/
def sql (table : String) (k : OrderKey) : String :=
  table ++ "." ++ k.column ++ (if k.descending then " DESC" else " ASC")

end OrderKey

namespace Selection

/-- The clauses of a selection: conditions, order, cap. -/
def clauses (s : Selection) : List Phrase :=
  let table := s.model.table
  let filter : List Phrase :=
    if s.conditions.isEmpty then []
    else
      let parts := (Condition.alternativesOfAll table 0 s.conditions).1
      [.plain "WHERE " ++ Phrase.grouping.whole parts]
  let order : List Phrase :=
    if s.order.isEmpty then []
    else [.plain ("ORDER BY " ++ ", ".intercalate (s.order.map (·.sql table)))]
  let cap : List Phrase := match s.cap with
    | some n => [⟨"LIMIT ? OFFSET ?", [.int n, .int 0]⟩]
    | none => []
  filter ++ order ++ cap

/-- What follows the name of the table in the statement of a selection. -/
def statement (s : Selection) : Phrase := .join " " s.clauses

end Selection

end Winnow
