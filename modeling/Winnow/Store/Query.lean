import Winnow.Store.Extent
import Winnow.Store.Fault
import Winnow.Store.Selection

/-!
# Winnow.Store.Query — asking for the rows of a selection

Nothing is read before the selection is asked for its rows or their number. Then the store must take
its parameters and its statement, and no row that it tests may go wrong; how many it tests depends
on the order and on how many rows are wanted.
-/

namespace Winnow

/-- How a selection is read: the number of its rows, all of them, or so many of them from a place
on. -/
inductive Query where
  | count
  | rows
  | window (size offset : Int)

namespace Query

/-- The parameters of the cap. -/
def capParameters : Query → List Int
  | window size offset => [size, offset]
  | _ => []

/-- The number of symbols that are kept before the condition of the statement begins: counted rows
stand in a statement of their own. -/
def outside : Query → Nat
  | count => 11
  | _ => 5

/-- The number of rows that must be found, if not all are wanted. -/
def needed? : Query → Option Nat
  | window size offset => if size < 0 then none else some (size.toNat + offset.toNat)
  | _ => none

/-- Are no rows wanted at all? -/
def isEmpty : Query → Bool
  | window size _ => size == 0
  | _ => false

end Query

namespace Selection

/-- Does the store read the statement of a query? -/
def isReadable (s : Selection) (q : Query) : Bool :=
  let keys := match q with
    | .count => 0
    | _ => s.order.length
  (Extent.ofConditions s.conditions).isReadable q.outside q.capParameters.length &&
    keys ≤ Extent.maxKeys

/-- Why the store does not take the statement and the parameters of a query: first what has no form,
then what the store cannot read, then what it does not take, in the order of the parameters. -/
def refusal? (s : Selection) (q : Query) : Option Error :=
  let bs := Condition.allBindings s.conditions ++
    q.capParameters.map fun n => (Value.int n).bindPlain
  let errors := Condition.refusals bs
  if errors.contains .unbindable then some .unbindable
  else if errors.contains .unavailable then some .unavailable
  else if s.isReadable q then errors.head?
  else some .tooLarge

/-- Are the rows found in the order of the selection, one by one? They are if it begins with a
column that tells them apart and the way to find them follows it. Otherwise all rows are found
before they are put in order. -/
def isFoundInOrder (s : Selection) (tests : List Condition.Test) : Bool :=
  match s.order with
  | [] => true
  | k :: _ =>
    s.model.isUnique k.column && (Condition.Test.bestAccess? tests).all (·.follows k.column)

/-- What goes wrong while the rows of a query are found. -/
def fault? (db : Database) (s : Selection) (q : Query) : Option Error :=
  let tests := Condition.tests db s.model s.conditions
  let rows := db.rows s.model
  if q.isEmpty then none
  else match q, s.isFoundInOrder tests with
    | .window .., true => Condition.Test.rowsFault? tests q.needed? (s.inOrder rows)
    | _, _ => Condition.Test.rowsFault? tests none rows

/-- Can the store answer a query? -/
def check (db : Database) (s : Selection) (q : Query) : Except Error Unit :=
  match (s.refusal? q).or (s.fault? db q) with
  | some e => .error e
  | none => .ok ()

/-- The number of rows that satisfy all conditions, whatever the cap. -/
def count (db : Database) (s : Selection) : Except Error Nat := do
  s.check db .count
  return (s.matching db).length

/-- The selected rows. -/
def all (db : Database) (s : Selection) : Except Error (List Row) :=
  match s.cap with
  | none => do
    s.check db .rows
    return s.ordered db
  | some cap => do
    s.check db (.window cap 0)
    return window (s.ordered db) cap 0

/-- The number of rows of a page that lie under the cap. -/
def pageSize (s : Selection) (perPage offset : Int) : Int :=
  match s.cap with
  | none => perPage
  | some cap => max 0 (min perPage (cap - offset))

/-- The rows of one page. The store is not asked for a page without rows. -/
def page (db : Database) (s : Selection) (perPage page : Int) : Except Error (List Row) :=
  let offset := (page - 1) * perPage
  let size := s.pageSize perPage offset
  if size = 0 then .ok []
  else do
    s.check db (.window size offset)
    return window (s.ordered db) size offset

end Selection

end Winnow
