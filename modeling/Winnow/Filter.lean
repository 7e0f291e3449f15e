import Winnow.Filter.FieldPath
import Winnow.Filter.Period
import Winnow.Query.Call

/-!
# Winnow.Filter — from a filter map to calls

A filter map has an entry for each field: an argument that the field shall equal, or a mapping from
operators to arguments. All entries must hold. An entry with a blank argument asks for nothing,
unless its operator takes no argument. The entry of the search term is different: its argument is
sought in several declared fields, one of which must hold it.

Before it is read, the map may be edited by whoever declares the resource.
-/

namespace Winnow.Filter

/-! ## One condition -/

/-- The order comparisons by their symbols. -/
def symbol? : Operator → Option String
  | .less => some "<"
  | .lessEqual => some "<="
  | .greater => some ">"
  | .greaterEqual => some ">="
  | _ => none

/-- Does the dialect tell small letters from capitals, so that a search must be told not to? -/
def foldsCase (dialect : String) : Bool := dialect == "postgresql" || dialect == "pgsql"

/-- The call that finds a value anywhere in a column. -/
def likeCall (dialect column : String) (v : Value) : Call :=
  .like column v.likePattern (foldsCase dialect)

/-- The call that finds one of the values under a key of a document; none if there are no values. -/
def documentCall? (column : String) (key v : Value) : Option Call :=
  match v.splitList with
  | [] => none
  | [item] => some (.documentHas column key.display item)
  | items => some (.any (items.map (.documentHas column key.display)))

/-- The calls of one operator on a column. -/
def leafCalls (dialect column : String) (op : Operator) (v : Value) : List Call :=
  match op with
  | .equal => [.equals column v.trimmed]
  | .notEqual => [.notEquals column v.trimmed]
  | .less | .lessEqual | .greater | .greaterEqual =>
    (symbol? op).toList.map fun symbol => .compare column symbol v
  | .among => match v.splitList with
    | [] => []
    | items => [.among column items]
  | .notAmong => match v.splitList with
    | [] => []
    | items => [.notAmong column items]
  | .like => [likeCall dialect column v]
  | .notNull => [.notNull column]
  | .between => match Period.bounds v with
    | .ok (lower, upper) => [.between column (.text lower) (.text upper)]
    | .error e => [.fail e]
  | .greaterOrNull => [.any [.isNull column, .compare column ">" v]]
  | .lessOrNull => [.any [.isNull column, .compare column "<" v]]
  | .json => match v.entries? with
    | some entries => entries.filterMap fun e => documentCall? column e.1 e.2
    | none => [.fail (.invalidDocumentFilter column)]

/-- The calls of one operator on a column that relations lead to: a scope for each relation. -/
def scopedCalls (dialect column : String) (op : Operator) (v : Value) : List String → List Call
  | [] => leafCalls dialect column op v
  | relation :: relations => [.has relation (scopedCalls dialect column op v relations)]

/-- The calls of one operator on a field. -/
def conditionCalls (dialect : String) (path : FieldPath) (op : Operator) (v : Value) : List Call :=
  scopedCalls dialect path.column op v path.relations

/-! ## The map -/

/-- The operator that a key of an entry names. -/
def operatorOf (key : Value) : Except Error Operator :=
  match key with
  | .operator op => .ok op
  | key => match Operator.read? key.display with
    | some op => .ok op
    | none => .error (.unsupportedOperator key.display)

/-- The operators of an entry with their arguments. An argument without an operator is one of
equality. -/
def operatorEntries (v : Value) : List (Value × Value) :=
  match v.entries? with
  | some entries => entries
  | none => [(.operator .equal, v)]

/-- The calls of one operator of an entry. -/
def operatorCalls (dialect : String) (path : FieldPath) (key v : Value) : List Call :=
  match operatorOf key with
  | .error e => [.fail e]
  | .ok op => if op != .notNull && v.isBlank then [] else conditionCalls dialect path op v

/-- The calls of an entry. -/
def entryCalls (dialect externalId : String) (key v : Value) : List Call :=
  match FieldPath.read externalId key with
  | .error e => [.fail e]
  | .ok path => (operatorEntries v).flatMap fun e => operatorCalls dialect path e.1 e.2

/-- The calls of the search term: at least one of the fields holds it. -/
def termCalls (dialect : String) (term : Value) (fields : List String) : List Call :=
  if term.isBlank || fields.isEmpty then [] else [.any (fields.map (likeCall dialect · term))]

/-! ## Requests -/

/-- One edit of a filter map: a value is put under a key, the entry under a key is dropped, or
another map takes its place. -/
inductive Edit where
  | set (key value : Value)
  | delete (key : Value)
  | replace (value : Value)

/-- The entries with one more, where something that yields a key and a value stands for it. -/
def insertPair (entries : List (Value × Value)) (pair : Value) :
    Except Error (List (Value × Value)) :=
  match pair.iterated? with
  | none => .error .wrongType
  | some [key, value] =>
    if key.isKey then .ok (Value.insert entries key value) else .error .wrongType
  | some _ => .error .meaningless

/-- The entries of a value that is used as a filter map. Null and other values that do not count
have none; what is no mapping may yield them pair by pair. -/
def entriesOf (v : Value) : Except Error (List (Value × Value)) :=
  if v.isTruthy then
    match v with
    | .mapping entries => .ok entries
    | v => match v.iterated? with
      | some pairs => pairs.foldlM insertPair []
      | none => .error .wrongType
  else .ok []

/-- A list with another item at a place, where places below zero count from its end. -/
def setItem (items : List Value) (place : Int) (item : Value) : Except Error Value :=
  let n : Int := items.length
  let i := if place < 0 then place + n else place
  if 0 ≤ i && i < n then .ok (.list (items.set i.toNat item)) else .error .outOfPlace

/-- A value with something put under a key: mappings and lists take it. -/
def setAt (v key item : Value) : Except Error Value :=
  match v with
  | .mapping entries =>
    if key.isKey then .ok (.mapping (Value.insert entries key item)) else .error .wrongType
  | .list items => match key.asInt? with
    | some place => setItem items place item
    | none => .error .wrongType
  | _ => .error .wrongType

/-- A value without what stands under a key. Only mappings can do without; lists and sets drop items
in another way, and other values do not drop anything. -/
def dropAt (v key : Value) : Except Error Value :=
  match v with
  | .mapping entries =>
    if key.isKey || entries.isEmpty then .ok (.mapping (Value.erase entries key))
    else .error .wrongType
  | .list _ => .error .wrongType
  | .set _ => .error .wrongType
  | _ => .error .noAttribute

/-- The map after an edit. It need not be a mapping until all edits are made. -/
def Edit.apply (v : Value) : Edit → Except Error Value
  | set key value => setAt v key value
  | delete key => dropAt v key
  | replace value => .ok value

/-- How a filter map is to be read, after its edits. The search term stands under `termKey` and is
sought in the fields that `termFields` yields; `externalId` is the column of external identifiers.
The dialect is that of the query unless there is another one here. -/
structure Options where
  dialect? : Option String
  termFields : Value
  termKey : String
  externalId : String
  edits : List Edit

/-- The defaults. -/
def Options.default : Options :=
  ⟨none, .tuple [], Settings.termField, Settings.externalIdColumn, []⟩

instance : Inhabited Options := ⟨.default⟩

/-- The entries that are read: those of the map, edited. -/
def Options.entries (o : Options) (filters : Value) : Except Error (List (Value × Value)) := do
  entriesOf (← o.edits.foldlM Edit.apply (.mapping (← entriesOf filters)))

/-- The calls of the entries of a filter map: the search term first, then entry by entry. -/
def Options.entryCalls (o : Options) (dialect : String) (entries : List (Value × Value)) :
    List Call :=
  let term := match Value.lookup? (.text o.termKey) entries with
    | some v => match o.termFields.iterated? with
      | some fields => termCalls dialect v (fields.map Value.snakeCase)
      | none => [.fail .wrongType]
    | none => []
  term ++ (Value.erase entries (.text o.termKey)).flatMap fun e =>
    Filter.entryCalls dialect o.externalId e.1 e.2

/-- The calls of a filter map on a query of a dialect, up to the first error. -/
def Options.calls (o : Options) (queryDialect : String) (filters : Value) : List Call :=
  match o.entries filters with
  | .error e => [.fail e]
  | .ok entries => o.entryCalls (o.dialect?.getD queryDialect) entries

end Winnow.Filter
