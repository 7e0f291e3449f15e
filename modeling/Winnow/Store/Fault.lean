import Winnow.Store.Condition

/-!
# Winnow.Store.Fault — what goes wrong while rows are tested

A statement that the store has read can still fail on a row: where the text of a cell is no
document, where a path is followed to a step that is not well formed, or where a pattern is too
long. Whether it does depends on how far the store goes.

A disjunction is tested from left to right up to the first part that holds, a conjunction up to the
first that does not. The parts of a conjunction are ordered before: first those that find rows by a
cell that tells rows apart in the best way there is, then all that look at the row alone, then those
that ask for other rows or for the elements of a document. Related rows are tested up to the first
that satisfies all.
-/

namespace Winnow.Condition

/-- How a condition finds rows by a cell that tells them apart. The first ways are the best. -/
inductive Access where
  | key
  | unique
  | someKeys
  | someUnique
  | rangeOfKeys
  | alternatives
  deriving DecidableEq

/-- The place of a way among all ways. -/
def Access.place : Access → Nat
  | key => 0
  | unique => 1
  | someKeys => 2
  | someUnique => 3
  | rangeOfKeys => 4
  | alternatives => 5

/-- Are rows found in this way in the order of a column that tells them apart? A single row is found
in any order. -/
def Access.follows (column : String) : Access → Bool
  | key => true
  | unique => true
  | someKeys => column == keyColumn
  | someUnique => column != keyColumn
  | rangeOfKeys => column == keyColumn
  | alternatives => false

mutual

/-- How the condition finds rows, if it does. -/
def access? (m : Model) : Condition → Option Access
  | compare c .equal _ =>
    if c.name = keyColumn then some .key
    else if m.isUnique c.name then some .unique else none
  | compare c comparison _ =>
    if c.name = keyColumn && comparison != .notEqual then some .rangeOfKeys else none
  | among c _ =>
    if c.name = keyColumn then some .someKeys
    else if m.isUnique c.name then some .someUnique else none
  | between c _ _ => if c.name = keyColumn then some .rangeOfKeys else none
  | any [] => none
  | any [c] => access? m c
  | any conditions => if allFindRows m conditions then some .alternatives else none
  | _ => none

/-- Do all the conditions find rows by a cell that tells them apart? -/
def allFindRows (m : Model) : List Condition → Bool
  | [] => true
  | c :: cs => (access? m c).isSome && allFindRows m cs

end

mutual

/-- Does the condition ask for more than the row? -/
def asksAround : Condition → Bool
  | documentHas _ form _ _ => form == .elements
  | has .. => true
  | any conditions => someAskAround conditions
  | _ => false

/-- Does one of the conditions ask for more than the row? -/
def someAskAround : List Condition → Bool
  | [] => false
  | c :: cs => asksAround c || someAskAround cs

end

/-! ## Tests -/

/-- A condition as it is tested on a row: how it finds rows, whether it asks for more than the row,
its truth, and what goes wrong on the way. -/
structure Test where
  access? : Option Access
  asksAround : Bool
  truth : Row → Option Bool
  fault? : Row → Option Error

/-- What goes wrong while tests are made, up to the first whose truth stops them. -/
def Test.firstFault? (stops : Option Bool → Bool) (r : Row) : List Test → Option Error
  | [] => none
  | t :: ts => match t.fault? r with
    | some e => some e
    | none => if stops (t.truth r) then none else firstFault? stops r ts

/-- What goes wrong while a disjunction is tested. -/
def Test.anyFault? (ts : List Test) (r : Row) : Option Error := firstFault? (· == some true) r ts

/-- Is no test among `ts` a better way to find rows than this one? -/
def Test.isBest (ts : List Test) (t : Test) : Bool :=
  match t.access? with
  | some a => ts.all fun other => other.access?.all (a.place ≤ ·.place)
  | none => false

/-- The best way to find rows among tests. -/
def Test.bestAccess? (ts : List Test) : Option Access :=
  (ts.find? (isBest ts)).bind (·.access?)

/-- The place of a test in a conjunction of `ts`: smaller ranks come first. -/
def Test.rank (ts : List Test) (t : Test) : Nat :=
  if isBest ts t then 0 else if t.asksAround then 2 else 1

/-- The tests in the order of a conjunction. -/
def Test.ordered (ts : List Test) : List Test := ts.mergeSort fun a b => rank ts a ≤ rank ts b

/-- What goes wrong while a conjunction is tested. -/
def Test.allFault? (ts : List Test) (r : Row) : Option Error :=
  firstFault? (· != some true) r (ordered ts)

/-- Do all tests hold? -/
def Test.allHold (ts : List Test) (r : Row) : Bool := ts.all fun t => t.truth r == some true

/-- What goes wrong while a conjunction is tested on rows, one after the other, until it holds of so
many, or on all. -/
def Test.rowsFault? (ts : List Test) : Option Nat → List Row → Option Error
  | some 0, _ => none
  | _, [] => none
  | need?, r :: rs => match allFault? ts r with
    | some e => some e
    | none => rowsFault? ts (if allHold ts r then need?.map (· - 1) else need?) rs

mutual

/-- What goes wrong while a condition is tested on a row. -/
def fault? (db : Database) (m : Model) : Condition → Row → Option Error
  | like _ pattern _, _ => if Like.isTooLong pattern then some .patternTooLong else none
  | documentHas c _ key _, r => match (r.cell c.name).lookup key with
    | .error e => some e
    | .ok _ => none
  | any conditions, r => Test.anyFault? (tests db m conditions) r
  | has relation target conditions, r =>
    Test.rowsFault? (tests db target conditions) (some 1) (db.relatedRows relation target r)
  | _, _ => none

/-- The tests of conditions. -/
def tests (db : Database) (m : Model) : List Condition → List Test
  | [] => []
  | c :: cs =>
    ⟨access? m c, asksAround c, fun r => eval db r c, fun r => fault? db m c r⟩ :: tests db m cs

end

end Winnow.Condition
