import Winnow.Error
import Winnow.Value

/-!
# Winnow.Query.Call — what is asked of a query

Filters, sorting and caps do not touch a store. They are turned into a list of *calls*, and whoever
receives the calls, a selection of rows or a mere recorder, gives them their meaning. The calls of a
list are joined by *and*; those inside `any` by *or*; those inside `has` are asked of the related
rows.

A list of calls may break off: `fail` stands where the one who made the list met an error. The calls
before it count.
-/

namespace Winnow

/-- One call on a query. -/
inductive Call where
  | equals (column : String) (value : Value)
  | notEquals (column : String) (value : Value)
  | compare (column symbol : String) (value : Value)
  | among (column : String) (values : List Value)
  | notAmong (column : String) (values : List Value)
  | like (column pattern : String) (foldCase : Bool)
  | isNull (column : String)
  | notNull (column : String)
  | between (column : String) (lower upper : Value)
  | documentHas (column key : String) (value : Value)
  /-- At least one of the calls holds. -/
  | any (calls : List Call)
  /-- Some row related through the relation satisfies all calls. -/
  | has (relation : String) (calls : List Call)
  | orderBy (column direction : String)
  | limit (count : Int)
  /-- The list of calls breaks off here. -/
  | fail (error : Error)
  deriving Inhabited

namespace Call

mutual

/-- The error at which a call breaks off, if it does. -/
def failure? : Call → Option Error
  | fail e => some e
  | any calls => firstFailure? calls
  | has _ calls => firstFailure? calls
  | _ => none

/-- The first error at which calls break off. -/
def firstFailure? : List Call → Option Error
  | [] => none
  | c :: cs => (failure? c).or (firstFailure? cs)

end

/-- What a recorder notes of a list of calls: those before the first that breaks off, and its error.
A group or scope is noted when its calls are complete. -/
def recorded : List Call → List Call × Option Error
  | [] => ([], none)
  | c :: cs => match c.failure? with
    | some e => ([], some e)
    | none => let (noted, e) := recorded cs; (c :: noted, e)

/-- The cap that the call sets, if it caps. -/
def cap? : Call → Option Int
  | limit n => some n
  | _ => none

/-- The cap that the last call that caps sets, if there is one. -/
def lastCap? (calls : List Call) : Option Int := (calls.filterMap cap?).getLast?

/-- The direction of an ordering whose name is `desc` in any case; any other name ascends. -/
def isDescending (direction : String) : Bool :=
  String.ofList (direction.toList.map fun c => if c = 'ſ' then 'S' else c.toUpper) == "DESC"

end Call

end Winnow
