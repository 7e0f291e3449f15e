import Winnow.Store.Condition

/-!
# Winnow.Store.Selection — which rows, in which order, how many

A selection is what the calls on a query have gathered so far: conditions, an order and a cap. A
call that is refused leaves it as it was. Once there is a cap, neither conditions nor orders can be
added.

A negative cap is no cap, and a negative place of the first row is the first place.
-/

namespace Winnow

/-- One key of an order: a column, and whether it descends. -/
structure OrderKey where
  column : String
  descending : Bool
  deriving DecidableEq

namespace OrderKey

/-- The order of two rows by one key. Null comes first, and last where the key descends. -/
def compare (k : OrderKey) (a b : Row) : Ordering :=
  let o := Stored.order (a.cell k.column).stored (b.cell k.column).stored
  if k.descending then o.swap else o

/-- The order of two rows by several keys, where the first that tells them apart decides. -/
def compareAll : List OrderKey → Row → Row → Ordering
  | [], _, _ => .eq
  | k :: ks, a, b => (k.compare a b).then (compareAll ks a b)

end OrderKey

/-- What a query has gathered: the model, the dialect, which decides how documents are searched, the
conditions that all selected rows satisfy, the keys of the order, the first one first, and the
greatest number of rows. -/
structure Selection where
  model : Model
  dialect : String
  conditions : List Condition
  order : List OrderKey
  cap : Option Int

namespace Selection

/-- The selection of all rows of a model. -/
def ofModel (model : Model) (dialect : String) : Selection := ⟨model, dialect, [], [], none⟩

/-! ## Gathering -/

/-- A selection that can still grow, or the error that it cannot. -/
def uncapped (s : Selection) : Except Error Selection :=
  if s.cap.isSome then .error .afterCap else .ok s

/-- Add a condition. -/
def addCondition (s : Selection) (c : Condition) : Except Error Selection :=
  s.uncapped.map fun s => { s with conditions := s.conditions ++ [c] }

/-- Add a key to the order. -/
def addOrder (s : Selection) (k : OrderKey) : Except Error Selection :=
  s.uncapped.map fun s => { s with order := s.order ++ [k] }

/-- The selection after a call. -/
def call (schema : Schema) (s : Selection) : Call → Except Error Selection
  | .orderBy name direction => do
    let c ← Condition.column s.model name
    s.addOrder ⟨c.name, Call.isDescending direction⟩
  | .limit n => .ok { s with cap := some n }
  | c => do
    match ← Condition.ofCall? schema s.dialect s.model c with
    | none => .ok s
    | some condition => s.addCondition condition

/-- The selection after calls, up to the first that is refused. -/
def callAll (schema : Schema) (s : Selection) : List Call → Selection × Option Error
  | [] => (s, none)
  | c :: cs => match s.call schema c with
    | .ok s => s.callAll schema cs
    | .error e => (s, some e)

/-- The selection after calls, if none is refused. -/
def callAll? (schema : Schema) (s : Selection) (cs : List Call) : Except Error Selection :=
  match s.callAll schema cs with
  | (s, none) => .ok s
  | (_, some e) => .error e

/-! ## Reading -/

/-- The rows that satisfy all conditions, in the order of the table. -/
def matching (db : Database) (s : Selection) : List Row :=
  (db.rows s.model).filter fun r => Condition.holdsAll db r s.conditions

/-- Rows in the order of the selection. Rows that no key tells apart stay as they are. -/
def inOrder (s : Selection) (rows : List Row) : List Row :=
  rows.mergeSort fun a b => OrderKey.compareAll s.order a b != .gt

/-- The rows that satisfy all conditions, in the order of the selection. -/
def ordered (db : Database) (s : Selection) : List Row := s.inOrder (s.matching db)

/-- The rows from a place on, so many of them. -/
def window (rows : List Row) (count offset : Int) : List Row :=
  let rest := rows.drop offset.toNat
  if count < 0 then rest else rest.take count.toNat

end Selection

end Winnow
