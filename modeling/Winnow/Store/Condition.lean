import Winnow.Query.Call
import Winnow.Store.Coercion
import Winnow.Store.Database
import Winnow.Store.Like
import Winnow.Store.Parameter

/-!
# Winnow.Store.Condition — conditions on rows

A condition is a call that has found its column, its relation and the values that the column takes.
It holds of a row, does not hold, or is unknown: a comparison with null is unknown, and a row is
selected only where every condition holds.
-/

namespace Winnow

/-- The comparisons of ordered values. -/
inductive Comparison where
  | equal
  | notEqual
  | less
  | lessEqual
  | greater
  | greaterEqual
  deriving DecidableEq

namespace Comparison

/-- Does the comparison hold of two values in this order? -/
def holds : Comparison → Ordering → Bool
  | equal, o => o == .eq
  | notEqual, o => o != .eq
  | less, o => o == .lt
  | lessEqual, o => o != .gt
  | greater, o => o == .gt
  | greaterEqual, o => o != .lt

/-- The symbol of a comparison. -/
def symbol : Comparison → String
  | equal => "="
  | notEqual => "!="
  | less => "<"
  | lessEqual => "<="
  | greater => ">"
  | greaterEqual => ">="

/-- The order comparison with this symbol. -/
def ofSymbol? (s : String) : Option Comparison :=
  [less, lessEqual, greater, greaterEqual].find? (·.symbol == s)

end Comparison

/-- How a dialect finds a value in a document. -/
inductive DocumentForm where
  /-- Containment of documents. -/
  | containment
  /-- A function that tells whether a document contains another one. -/
  | function
  /-- The value at a path, or one of its elements. -/
  | elements
  /-- The value at a path. -/
  | extract
  deriving DecidableEq

/-- The dialects whose text search heeds case and has a form that does not. They contain documents,
too. -/
def caseDialects : List String := ["postgresql", "pgsql"]

/-- The form that a dialect uses. -/
def DocumentForm.ofDialect (dialect : String) : DocumentForm :=
  if caseDialects.contains dialect then containment
  else if dialect == "mysql" || dialect == "mariadb" then function
  else if dialect == "sqlite" then elements
  else extract

/-- A condition on the rows of a table. -/
inductive Condition where
  | isNull (column : Column)
  | notNull (column : Column)
  /-- The column is the boolean, or is not if `negated`. -/
  | flag (column : Column) (negated value : Bool)
  | compare (column : Column) (comparison : Comparison) (value : Value)
  | among (column : Column) (values : List Value)
  | notAmong (column : Column) (values : List Value)
  | like (column : Column) (pattern : String) (foldCase : Bool)
  | between (column : Column) (lower upper : Value)
  | documentHas (column : Column) (form : DocumentForm) (key : String) (value : Value)
  /-- One of the conditions holds. -/
  | any (conditions : List Condition)
  /-- Some related row satisfies all conditions. -/
  | has (relation : Relation) (target : Model) (conditions : List Condition)

namespace Condition

/-! ## From calls to conditions -/

/-- The column of a model, or the error that there is none. -/
def column (m : Model) (name : String) : Except Error Column :=
  match m.column? name with
  | some c => .ok c
  | none => .error (.unknownColumn m.name name)

/-- Equality with a value that the column takes. Null and booleans have conditions of their own. -/
def ofEquality (c : Column) (negated : Bool) : Value → Condition
  | .null => if negated then notNull c else isNull c
  | .bool b => flag c negated b
  | v => compare c (if negated then .notEqual else .equal) v

/-- Order comparison with a value that the column takes. Null and booleans have no order. -/
def ofOrder (c : Column) (comparison : Comparison) : Value → Except Error Condition
  | .null => .error .unordered
  | .bool _ => .error .unordered
  | v => .ok (compare c comparison v)

mutual

/-- The condition that a call adds to the conditions on a model's rows; a group without calls adds
none. -/
def ofCall? (s : Schema) (dialect : String) (m : Model) : Call → Except Error (Option Condition)
  | .equals name v => do
    let c ← column m name
    return some (ofEquality c false (← c.coerce v))
  | .notEquals name v => do
    let c ← column m name
    return some (ofEquality c true (← c.coerce v))
  | .compare name symbol v => do
    let c ← column m name
    match Comparison.ofSymbol? symbol with
    | none => .error .unknownSymbol
    | some comparison => return some (← ofOrder c comparison (← c.coerce v))
  | .among name vs => do
    let c ← column m name
    return some (.among c (← c.coerceAll vs))
  | .notAmong name vs => do
    let c ← column m name
    return some (.notAmong c (← c.coerceAll vs))
  | .like name pattern foldCase => do
    let c ← column m name
    return some (.like c pattern foldCase)
  | .isNull name => do return some (.isNull (← column m name))
  | .notNull name => do return some (.notNull (← column m name))
  | .between name lower upper => do
    let c ← column m name
    let lower ← c.coerce lower
    return some (.between c lower (← c.coerce upper))
  | .documentHas name key v => do
    let c ← column m name
    let form := DocumentForm.ofDialect dialect
    if form = .function && v.toJson?.isNone then .error .wrongType
    else return some (.documentHas c form key v)
  | .any calls => do
    match ← ofCalls s dialect m calls with
    | [] => return none
    | conditions => return some (.any conditions)
  | .has name calls =>
    match (m.relation? name).bind fun r => (s.model? r.target).map fun t => (r, t) with
    | none => .error (.unknownRelation m.name name)
    | some (r, target) => do return some (.has r target (← ofCalls s dialect target calls))
  | .orderBy name _ => do
    let _ ← column m name
    .error .notOnGroup
  | .limit _ => .error .notOnGroup
  | .fail e => .error e

/-- The conditions that the calls of a group or scope add. -/
def ofCalls (s : Schema) (dialect : String) (m : Model) : List Call → Except Error (List Condition)
  | [] => .ok []
  | call :: calls => do
    let condition? ← ofCall? s dialect m call
    let rest ← ofCalls s dialect m calls
    return condition?.toList ++ rest

end

/-! ## Truth -/

/-- The truth of a comparison of two stored values. Where the column holds texts, numbers are
compared as texts. -/
def compareStored (c : Column) (comparison : Comparison) (a b : Stored) : Option Bool :=
  let b := if c.kind.holdsText then b.toText else b
  (Stored.compare? a b).map comparison.holds

/-- The truth of a disjunction: true if one part is, otherwise unknown if one part is. -/
def disjoin (a b : Option Bool) : Option Bool :=
  match a, b with
  | some true, _ => some true
  | _, some true => some true
  | some false, some false => some false
  | _, _ => none

/-- The truth of a conjunction: false if one part is, otherwise unknown if one part is. -/
def conjoin (a b : Option Bool) : Option Bool :=
  match a, b with
  | some false, _ => some false
  | _, some false => some false
  | some true, some true => some true
  | _, _ => none

/-- A parameter as the store keeps it; one that the store does not take is null here, since such a
query never runs. -/
def parameter (kind : ColumnKind) (v : Value) : Stored :=
  match v.bind kind with
  | .ok s => s
  | .error _ => .null

/-- A parameter that is compared with a column. -/
def compared (c : Column) (v : Value) : Stored := parameter (v.comparedKind c.kind) v

/-- Is the stored value one of several of a type? In a list without items nothing is. -/
def memberOf (c : Column) (kind : ColumnKind) (a : Stored) (vs : List Value) : Option Bool :=
  vs.foldr (fun v rest => disjoin (compareStored c .equal a (parameter kind v)) rest) (some false)

/-- Is the cell of a column one of several values? -/
def isAmong (c : Column) (a : Stored) (vs : List Value) : Option Bool :=
  memberOf c (Value.listKind c.kind vs) a vs

/-- The value in a document as the store sees it: containers are their compact texts. -/
def storedJson : Json → Stored
  | .null => .null
  | .bool b => .int (if b then 1 else 0)
  | .int n => if Stored.fits n then .int n else .ofDouble (.ofInt n)
  | .double x => .ofDouble x
  | .text s => .text s
  | doc => .text (doc.write Json.compact)

/-- Equality of a value in a document with a parameter, where null equals null alone. -/
def equalsStored (a : Stored) (v : Value) : Option Bool :=
  match v with
  | .null => some (a == .null)
  | v => (Stored.compare? a (parameter (v.comparedKind .other) v)).map (Comparison.equal.holds ·)

/-- The truth of a search in the document of a cell. -/
def documentHolds (form : DocumentForm) (key : String) (v : Value) (cell : Cell) : Option Bool :=
  let found : Option Json := (cell.lookup key).toOption.join
  let atPath := equalsStored ((found.map storedJson).getD .null) v
  match form with
  | .extract => atPath
  | .elements =>
    let items := (found.map Json.elements).getD []
    disjoin atPath (some (items.any fun item => equalsStored (storedJson item) v == some true))
  | .containment => none
  | .function => none

mutual

/-- The truth of a condition on a row; `none` is unknown. -/
def eval (db : Database) (r : Row) : Condition → Option Bool
  | isNull c => some (r.cell c.name).isNull
  | notNull c => some (!(r.cell c.name).isNull)
  | flag c negated b =>
    compareStored c (if negated then .notEqual else .equal) (r.cell c.name).stored
      (.int (if b then 1 else 0))
  | compare c comparison v => compareStored c comparison (r.cell c.name).stored (compared c v)
  | among c vs => isAmong c (r.cell c.name).stored vs
  | notAmong c vs => (isAmong c (r.cell c.name).stored vs).map (!·)
  | like c pattern _ => (r.cell c.name).stored.asText?.map (Like.test pattern)
  | between c lower upper =>
    conjoin (compareStored c .greaterEqual (r.cell c.name).stored (compared c lower))
      (compareStored c .lessEqual (r.cell c.name).stored (compared c upper))
  | documentHas c form key v => documentHolds form key v (r.cell c.name)
  | any conditions => evalAny db r conditions
  | has relation target conditions =>
    some ((db.relatedRows relation target r).any fun other => holdsAll db other conditions)

/-- The truth of a disjunction of conditions. -/
def evalAny (db : Database) (r : Row) : List Condition → Option Bool
  | [] => some false
  | c :: cs => disjoin (eval db r c) (evalAny db r cs)

/-- Do all conditions hold of the row? -/
def holdsAll (db : Database) (r : Row) : List Condition → Bool
  | [] => true
  | c :: cs => eval db r c == some true && holdsAll db r cs

end

/-! ## Parameters -/

/-- What becomes of the parameters of a condition when the store is asked, one result for each. -/
abbrev Binding := Except Error Stored

/-- A parameter of a comparison as the store takes it. -/
def binding (kind : ColumnKind) (v : Value) : Binding := v.bind (v.comparedKind kind)

/-- The parameters of a list as the store takes them. -/
def listBindings (c : Column) (vs : List Value) : List Binding :=
  vs.map (·.bind (Value.listKind c.kind vs))

/-- The value that is sought in a document as the store takes it. Only documents are contained in
documents, and the store does not find them. -/
def documentBinding (form : DocumentForm) (v : Value) : Binding :=
  match form with
  | .elements => binding .other v
  | .extract => binding .other v
  | .containment => if v.toJson?.isSome then .error .unavailable else .error .unbindable
  | .function => .error .unavailable

mutual

/-- The parameters of a condition as the store takes them. -/
def bindings : Condition → List Binding
  | isNull _ => []
  | notNull _ => []
  | flag .. => []
  | compare c _ v => [binding c.kind v]
  | among c vs => listBindings c vs
  | notAmong c vs => listBindings c vs
  | like c pattern _ => [if c.kind = .uuid then .error .unbindable else .ok (.text pattern)]
  | between c lower upper => [binding c.kind lower, binding c.kind upper]
  | documentHas _ form _ v => [documentBinding form v]
  | any conditions => allBindings conditions
  | has _ _ conditions => allBindings conditions

/-- The parameters of several conditions. -/
def allBindings : List Condition → List Binding
  | [] => []
  | c :: cs => bindings c ++ allBindings cs

end

/-- The refusals among bindings. -/
def refusals (bs : List Binding) : List Error :=
  bs.filterMap fun b => match b with
    | .error e => some e
    | .ok _ => none

end Condition

end Winnow
