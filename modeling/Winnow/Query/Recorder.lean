import Winnow.Query.Call
import Winnow.Query.Paginator

/-!
# Winnow.Query.Recorder — queries without a store

A recorder takes calls and notes them. It has rows of its own, which are nothing but their keys, and
no condition selects among them; a cap cuts them. Its number of rows may be feigned.
-/

namespace Winnow

/-- A query that notes its calls. It feigns rows with these keys, or another number of rows, and
heeds the last cap. -/
structure Recorder where
  rows : List Int
  count? : Option Int
  cap? : Option Int
  noted : List Call

namespace Recorder

/-- A recorder with the rows 1 to `n`. -/
def ofCount (n : Nat) (count? : Option Int) : Recorder :=
  ⟨(List.range n).map fun i => Int.ofNat (i + 1), count?, none, []⟩

/-- The recorder after calls, the calls that it noted, and the error at which they broke off. -/
def take (r : Recorder) (cs : List Call) : Recorder × List Call × Option Error :=
  let (noted, e) := Call.recorded cs
  ({ r with cap? := (Call.lastCap? noted).or r.cap?, noted := r.noted ++ noted }, noted, e)

/-- The keys from one place to another, as far as they lie under the cap. -/
def slice (r : Recorder) (start stop : Int) : List Int :=
  let stop := match r.cap? with
    | some cap => min stop cap
    | none => stop
  (r.rows.take stop.toNat).drop start.toNat

/-- The serializers of its rows. -/
def serializers : List String := ["to_dict", "to_summary"]

/-- A row as a serializer shows it. -/
def serialize (name : String) (key : Int) : Except Error Value :=
  if serializers.contains name then .ok (.mapping [(.text "id", .int key)])
  else .error (.noSerializer "Row" name)

/-- The recorder as a source of pages. -/
def source (r : Recorder) : Source Int where
  count := .ok (r.count?.getD r.rows.length)
  page perPage page := .ok (r.slice ((page - 1) * perPage) ((page - 1) * perPage + perPage))
  all := .ok (r.slice 0 r.rows.length)
  serialize := serialize

end Recorder

end Winnow
