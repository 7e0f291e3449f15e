import Winnow.Proofs.Store.Answer
import Winnow.Proofs.Store.Ordering
import Winnow.Proofs.Store.Scope
import Winnow.Proofs.Store.Sorted
import Winnow.Sample.Shop

/-!
# Winnow.Proofs.Store.Run — runs in which calls may be refused

Whoever asks a query may go on after a call that is refused. Such a run is followed by
`Selection.run`, which passes over refused calls, and `Selection.taken`, which keeps the others.

* One call is summed up in `Selection.call_cases`. From it `Selection.eq_of_callAll?` says what
  calls that are all taken leave behind: the conditions of those that ask something of rows, the
  keys of the orders, and the last cap.
* `Selection.callAll?_taken`: a run leaves what its taken calls leave by themselves. So a refused
  call has no part in what comes after it.
* `Selection.run_of_cap`: once there is a cap, nothing but another cap changes the selection.

Main statement: the number of rows and the rows of a run are told from the taken calls and the last
cap alone, and after a cap every call that would add something is refused (`run_answers`).
-/

namespace Winnow

namespace Call

/-! ## What calls are for -/

/-- The key that the call adds to the order, if it orders. -/
def orderKey? : Call → Option OrderKey
  | orderBy name direction => some ⟨name, isDescending direction⟩
  | _ => none

/-- Does the call add to the selection: a condition, or a key of the order? -/
def adds : Call → Bool
  | orderBy .. => true
  | limit _ => false
  | call => call.isEffective

theorem cap?_eq_some_iff {call : Call} {n : Int} : call.cap? = some n ↔ call = .limit n := by
  cases call <;> simp [cap?]

theorem orderKey?_of_isFilter {call : Call} (h : call.isFilter = true) : call.orderKey? = none := by
  cases call <;> first | rfl | cases h

theorem cap?_of_isFilter {call : Call} (h : call.isFilter = true) : call.cap? = none := by
  cases call <;> first | rfl | cases h

theorem lastCap?_cons (call : Call) (calls : List Call) :
    lastCap? (call :: calls) = (lastCap? calls).or call.cap? := by
  unfold lastCap?
  cases hCap : call.cap? with
  | none => simp [hCap]
  | some n =>
    rw [List.filterMap_cons_some hCap, List.getLast?_cons]
    cases (calls.filterMap cap?).getLast? <;> rfl

theorem isSome_lastCap? {calls : List Call} {n : Int} (h : limit n ∈ calls) :
    (lastCap? calls).isSome = true := by
  have hNe : calls.filterMap cap? ≠ [] := List.ne_nil_of_mem (List.mem_filterMap.mpr ⟨_, h, rfl⟩)
  rw [lastCap?, List.getLast?_eq_some_getLast hNe]
  rfl

/-- The last cap is one of the caps. -/
theorem mem_of_lastCap? {calls : List Call} {n : Int} (h : lastCap? calls = some n) :
    limit n ∈ calls := by
  obtain ⟨call, hMem, hCap⟩ := List.mem_filterMap.mp (List.mem_of_getLast? h)
  exact cap?_eq_some_iff.mp hCap ▸ hMem

end Call

namespace Selection

variable {schema : Schema} {s s' : Selection} {calls : List Call}

/-! ## Calls that are taken -/

theorem callAll?_nil : s.callAll? schema [] = .ok s := rfl

/-- **What calls leave that are all taken**: the conditions of the calls that ask something of rows,
the keys of those that order, and the last cap. -/
theorem eq_of_callAll? (h : s.callAll? schema calls = .ok s') :
    ∃ conditions,
      Condition.ofCalls schema s.dialect s.model (calls.filter Call.isFilter) = .ok conditions ∧
      s' = { s with
        conditions := s.conditions ++ conditions
        order := s.order ++ calls.filterMap Call.orderKey?
        cap := (Call.lastCap? calls).or s.cap } := by
  -- the model and the dialect stay, so the later calls mean what they mean at the beginning
  induction calls generalizing s with
  | nil =>
    obtain rfl : s = s' := Except.ok.inj (callAll?_nil.symm.trans h)
    exact ⟨[], rfl, by simp [Call.lastCap?]⟩
  | cons call calls ih =>
    obtain ⟨t, hCall, hRest⟩ := callAll?_cons_eq_ok_iff.mp h
    obtain ⟨conditions, hConditions, rfl⟩ := ih hRest
    rw [Call.lastCap?_cons]
    rcases call_cases hCall with ⟨n, rfl, rfl⟩ | ⟨name, direction, column, rfl, hColumn, -, rfl⟩ |
      ⟨hFilter, added, hAdded, -, rfl⟩
    · exact ⟨conditions, hConditions, by rw [Option.or_assoc]; rfl⟩
    · have hName : column.name = name := by
        unfold Condition.column at hColumn
        split at hColumn
        · rename_i c hFound
          obtain rfl : c = column := Except.ok.inj hColumn
          exact Model.column?_name hFound
        · cases hColumn
      refine ⟨conditions, hConditions, ?_⟩
      simp [Call.orderKey?, Call.cap?, hName]
    · refine ⟨added.toList ++ conditions, ?_, ?_⟩
      · rw [List.filter_cons_of_pos hFilter]
        exact Condition.ofCalls_cons_eq_ok_iff.mpr ⟨added, conditions, hAdded, hConditions, rfl⟩
      · simp [Call.orderKey?_of_isFilter hFilter, Call.cap?_of_isFilter hFilter, gather]

/-! ## Runs -/

/-- The selection after calls, where those that are refused are passed over. -/
def run (schema : Schema) (s : Selection) : List Call → Selection
  | [] => s
  | c :: cs => match s.call schema c with
    | .ok t => t.run schema cs
    | .error _ => s.run schema cs

/-- The calls of a run that are not refused. -/
def taken (schema : Schema) (s : Selection) : List Call → List Call
  | [] => []
  | c :: cs => match s.call schema c with
    | .ok t => c :: t.taken schema cs
    | .error _ => s.taken schema cs

/-- **A run leaves what its taken calls leave.** -/
theorem callAll?_taken (schema : Schema) (s : Selection) (calls : List Call) :
    s.callAll? schema (s.taken schema calls) = .ok (s.run schema calls) := by
  induction calls generalizing s with
  | nil => rfl
  | cons call calls ih =>
    rw [taken, run]
    cases hCall : s.call schema call with
    | error e => exact ih s
    | ok t => exact callAll?_cons_eq_ok_iff.mpr ⟨t, hCall, ih t⟩

theorem run_append (schema : Schema) (s : Selection) (calls later : List Call) :
    s.run schema (calls ++ later) = (s.run schema calls).run schema later := by
  induction calls generalizing s with
  | nil => rfl
  | cons call calls ih =>
    rw [List.cons_append, run, run]
    cases s.call schema call with
    | error e => exact ih s
    | ok t => exact ih t

/-- No cap is refused. -/
theorem lastCap?_taken (schema : Schema) (s : Selection) (calls : List Call) :
    Call.lastCap? (s.taken schema calls) = Call.lastCap? calls := by
  induction calls generalizing s with
  | nil => rfl
  | cons call calls ih =>
    rw [taken]
    cases hCall : s.call schema call with
    | ok t =>
      dsimp only
      rw [Call.lastCap?_cons, Call.lastCap?_cons, ih t]
    | error e =>
      have hNone : call.cap? = none := by
        cases call with
        | limit n => cases hCall
        | _ => rfl
      dsimp only
      rw [Call.lastCap?_cons, hNone, Option.or_none, ih s]

/-! ## After a cap -/

/-- A call that adds something is refused once there is a cap. -/
theorem exists_error_of_adds {call : Call} (hAdds : call.adds = true) (hCap : s.cap.isSome = true) :
    ∃ e, s.call schema call = .error e := by
  cases hCall : s.call schema call with
  | error e => exact ⟨e, rfl⟩
  | ok t =>
    exfalso
    rcases call_cases hCall with ⟨n, rfl, -⟩ | ⟨_, _, _, -, -, hNone, -⟩ |
      ⟨hFilter, added, hAdded, hNone, -⟩
    · cases hAdds
    · simp [hNone] at hCap
    · have hEffective : call.isEffective = true := by
        cases call <;> first | exact hAdds | cases hFilter
      -- an effective call has a condition, which a cap does not let in
      have hSome : added.isSome = true :=
        (Call.isExact ⟨schema, []⟩ s.dialect call s.model added hAdded).1.mpr hEffective
      rw [hNone (Option.isSome_iff_ne_none.mp hSome)] at hCap
      cases hCap

/-- Once there is a cap, a call that is not refused sets another one or changes nothing. -/
theorem eq_of_call_of_cap {call : Call} (hCap : s.cap.isSome = true)
    (h : s.call schema call = .ok s') : s' = { s with cap := call.cap?.or s.cap } := by
  rcases call_cases h with ⟨n, rfl, rfl⟩ | ⟨_, _, _, -, -, hNone, -⟩ |
    ⟨hFilter, added, -, hNone, rfl⟩
  · rfl
  · simp [hNone] at hCap
  · cases added with
    | none => simp [Call.cap?_of_isFilter hFilter]
    | some c => simp [hNone] at hCap

/-- **After a cap** a run changes nothing but the cap. -/
theorem run_of_cap (hCap : s.cap.isSome = true) (later : List Call) :
    s.run schema later = { s with cap := (Call.lastCap? later).or s.cap } := by
  induction later generalizing s with
  | nil => rfl
  | cons call later ih =>
    rw [run, Call.lastCap?_cons]
    cases hCall : s.call schema call with
    | error e =>
      have hNone : call.cap? = none := by
        cases call with
        | limit n => cases hCall
        | _ => rfl
      dsimp only
      rw [ih hCap, hNone, Option.or_none]
    | ok t =>
      obtain rfl := eq_of_call_of_cap hCap hCall
      dsimp only
      rw [ih (by simp [hCap]), Option.or_assoc]

end Selection

/-! ## Rows of a run -/

open Classical in
/-- The rows of a table of which all calls hold that ask something of them, in the order of the
table. -/
noncomputable def Database.rowsHolding (db : Database) (dialect : String) (m : Model)
    (calls : List Call) : List Row :=
  (db.rows m).filter fun r => ∀ call ∈ calls, call.isFilter = true → call.isEffective = true →
    Call.Holds db dialect m r call

/-- Rows in the order of keys, the first of which is the primary one. Rows that no key tells apart
stay as they are. -/
def OrderKey.sort (keys : List OrderKey) (rows : List Row) : List Row :=
  rows.mergeSort fun a b => compareAll keys a b != .gt

namespace Selection

variable {db : Database} {s : Selection} {m : Model} {dialect : String} {calls : List Call}

/-- The selection of a run from the beginning. -/
theorem exists_eq_run (schema : Schema) (m : Model) (dialect : String) (calls : List Call) :
    ∃ conditions, Condition.ofCalls schema dialect m
        (((ofModel m dialect).taken schema calls).filter Call.isFilter) = .ok conditions ∧
      (ofModel m dialect).run schema calls =
        ⟨m, dialect, conditions, ((ofModel m dialect).taken schema calls).filterMap Call.orderKey?,
          Call.lastCap? calls⟩ := by
  obtain ⟨conditions, hConditions, hRun⟩ :=
    eq_of_callAll? (callAll?_taken schema (ofModel m dialect) calls)
  refine ⟨conditions, hConditions, hRun.trans ?_⟩
  simp [ofModel, lastCap?_taken]

/-- **The rows that match** are those of which all taken calls hold. -/
theorem matching_run (db : Database) (m : Model) (dialect : String) (calls : List Call) :
    ((ofModel m dialect).run db.schema calls).matching db =
      db.rowsHolding dialect m ((ofModel m dialect).taken db.schema calls) := by
  classical
  obtain ⟨conditions, hConditions, hRun⟩ := exists_eq_run db.schema m dialect calls
  rw [hRun]
  unfold matching Database.rowsHolding
  refine List.filter_congr fun r _ => ?_
  rw [Bool.eq_iff_iff, decide_eq_true_iff, Condition.holdsAll_iff,
    Call.forall_eval_iff (fun call _ => Call.isExact db dialect call) hConditions]
  simp only [List.mem_filter, and_imp]

theorem ordered_run (db : Database) (m : Model) (dialect : String) (calls : List Call) :
    ((ofModel m dialect).run db.schema calls).ordered db =
      OrderKey.sort (((ofModel m dialect).taken db.schema calls).filterMap Call.orderKey?)
        (db.rowsHolding dialect m ((ofModel m dialect).taken db.schema calls)) := by
  rw [ordered, matching_run]
  obtain ⟨conditions, -, hRun⟩ := exists_eq_run db.schema m dialect calls
  rw [hRun]
  rfl

theorem eq_of_count {n : Nat} (h : s.count db = .ok n) : n = (s.matching db).length := by
  obtain ⟨_, -, h⟩ := bind_eq_ok_iff.mp h
  exact (Except.ok.inj h).symm

/-- All rows that are shown are those under the cap, if it is not negative. -/
theorem eq_of_all {rows : List Row} (hCap : ∀ n ∈ s.cap, 0 ≤ n) (h : s.all db = .ok rows) :
    rows = (s.cap.elim (s.ordered db) fun n => (s.ordered db).take n.toNat) := by
  unfold all at h
  cases hCases : s.cap with
  | none =>
    rw [hCases] at h
    obtain ⟨_, -, h⟩ := bind_eq_ok_iff.mp h
    exact (Except.ok.inj h).symm
  | some n =>
    rw [hCases] at h
    obtain ⟨_, -, h⟩ := bind_eq_ok_iff.mp h
    obtain ⟨k, rfl⟩ := Int.eq_ofNat_of_zero_le (hCap n hCases)
    exact (Except.ok.inj h).symm.trans (window_ofNat (s.ordered db) k 0)

end Selection

/-- **The answers of a run** that passes over refused calls, whenever the store answers. The number
of rows is that of the rows of which the taken calls hold; orders and caps have no part in it. The
rows themselves are these, put in the order of the taken keys and cut at the last cap. Once a cap
has been set, every call that would add something is refused, and whatever is called, only the cap
changes. -/
theorem run_answers (db : Database) (m : Model) (dialect : String) (calls : List Call)
    (hCaps : ∀ n, Call.limit n ∈ calls → 1 ≤ n) (start s : Selection) (taken : List Call)
    (hStart : start = Selection.ofModel m dialect) (hRun : s = start.run db.schema calls)
    (hTaken : taken = start.taken db.schema calls) :
    (∀ n, s.count db = .ok n → n = (db.rowsHolding dialect m taken).length) ∧
    (∀ rows, s.all db = .ok rows → ∃ sorted,
      sorted = OrderKey.sort (taken.filterMap Call.orderKey?) (db.rowsHolding dialect m taken) ∧
      sorted.Perm (db.rowsHolding dialect m taken) ∧
      (sorted.Pairwise fun a b =>
        OrderKey.compareAll (taken.filterMap Call.orderKey?) a b ≠ .gt) ∧
      rows = (Call.lastCap? calls).elim sorted fun n => sorted.take n.toNat) ∧
    ∀ n, Call.limit n ∈ calls →
      (∀ call, call.adds = true → ∃ e, s.call db.schema call = .error e) ∧
      ∀ later, start.run db.schema (calls ++ later) =
        { s with cap := (Call.lastCap? later).or s.cap } := by
  subst hStart hRun hTaken
  obtain ⟨conditions, -, hRun⟩ := Selection.exists_eq_run db.schema m dialect calls
  refine ⟨?_, ?_, ?_⟩
  · intro n hCount
    rw [Selection.eq_of_count hCount, Selection.matching_run]
  · intro rows hRows
    -- the parts of the selection after a run, each read off the calls
    have hCap : ((Selection.ofModel m dialect).run db.schema calls).cap = Call.lastCap? calls := by
      rw [hRun]
    have hNonneg : ∀ n ∈ ((Selection.ofModel m dialect).run db.schema calls).cap, 0 ≤ n := by
      intro n hn
      have hPositive := hCaps n (Call.mem_of_lastCap? (hCap ▸ hn))
      omega
    have hSorted := Selection.pairwise_ordered db
      ((Selection.ofModel m dialect).run db.schema calls)
    have hPerm := Selection.ordered_perm db ((Selection.ofModel m dialect).run db.schema calls)
    have hRows := Selection.eq_of_all hNonneg hRows
    have hOrder : ((Selection.ofModel m dialect).run db.schema calls).order =
        ((Selection.ofModel m dialect).taken db.schema calls).filterMap Call.orderKey? := by
      rw [hRun]
    rw [hOrder] at hSorted
    rw [hCap] at hRows
    rw [Selection.matching_run] at hPerm
    rw [Selection.ordered_run] at hSorted hPerm hRows
    exact ⟨_, rfl, hPerm, hSorted, hRows⟩
  · intro n hLimit
    have hCap : ((Selection.ofModel m dialect).run db.schema calls).cap.isSome = true := by
      rw [hRun]
      exact Call.isSome_lastCap? hLimit
    refine ⟨fun call hAdds => Selection.exists_error_of_adds hAdds hCap, fun later => ?_⟩
    rw [Selection.run_append, Selection.run_of_cap hCap]

/-- Calls of which four are refused: two ask for a missing column, one of them in a group in a scope
in a group, and two come after the first cap. A group without calls is taken and asks for
nothing. -/
def interruptedCalls : List Call :=
  [.orderBy "status" "desc", .equals "weight" (.int 1),
    .any [.equals "stock" (.int 5), .has "category" [.any [.isNull "weight"]]],
    .any [], .any [.isNull "stock", .compare "stock" ">=" (.int 10)], .orderBy "price" "desc",
    .limit 5, .equals "name" (.text "12345"), .orderBy "name" "asc", .limit 4]

/-- Those of them that are taken. -/
def uninterruptedCalls : List Call :=
  [.orderBy "status" "desc", .any [], .any [.isNull "stock", .compare "stock" ">=" (.int 10)],
    .orderBy "price" "desc", .limit 5, .limit 4]

/-- The products after these calls. -/
def interrupted : Selection :=
  (Selection.ofModel Sample.product "sqlite").run Sample.shop.schema interruptedCalls

theorem keys_interrupted :
    (interrupted.matching Sample.shop).map (·.key) = [1, 3, 4, 5, 8, 9] := by decide

theorem length_interrupted : (interrupted.matching Sample.shop).length = 6 := by
  rw [← List.length_map (·.key), keys_interrupted]
  rfl

/-- The products in their order, by their places among those that match. -/
theorem ordered_interrupted : interrupted.ordered Sample.shop =
    [1, 4, 5, 2, 0, 3].map fun i => (interrupted.matching Sample.shop)[i]! :=
  Selection.ordered_eq_of_places length_interrupted (by decide) (by decide +kernel)

/-- Six products have no stock or ten and more. Four of them are shown: the inactive one, the
archived one, and the two dearest of those that are active. -/
theorem run_answers_interrupted :
    ∃ s rows sorted, s = (Selection.ofModel Sample.product "sqlite").run Sample.shop.schema
        interruptedCalls ∧
      (s.matching Sample.shop).map (·.key) = [1, 3, 4, 5, 8, 9] ∧
      s.count Sample.shop = .ok 6 ∧
      6 = (Sample.shop.rowsHolding "sqlite" Sample.product uninterruptedCalls).length ∧
      s.all Sample.shop = .ok rows ∧
      rows.map (·.key) = [3, 8, 9, 4] ∧
      sorted = OrderKey.sort [⟨"status", true⟩, ⟨"price", true⟩]
        (Sample.shop.rowsHolding "sqlite" Sample.product uninterruptedCalls) ∧
      rows = sorted.take 4 ∧
      ∀ call, call.adds = true → ∃ e, s.call Sample.shop.schema call = .error e := by
  have hCaps : ∀ n, Call.limit n ∈ interruptedCalls → 1 ≤ n := by
    intro n hn
    simp only [interruptedCalls, List.mem_cons, reduceCtorEq, Call.limit.injEq, false_or,
      List.not_mem_nil, or_false] at hn
    omega
  have hCheck (q : Query) (hq : q = .count ∨ q = .window 4 0) :
      interrupted.check Sample.shop q = .ok () := by
    refine Selection.check_eq_ok_iff.mpr (Option.isNone_iff_eq_none.mp ?_)
    rcases hq with rfl | rfl <;> decide +kernel
  have hCount : interrupted.count Sample.shop = .ok 6 :=
    bind_eq_ok_iff.mpr ⟨(), hCheck _ (.inl rfl), congrArg Except.ok length_interrupted⟩
  have hAll : interrupted.all Sample.shop = .ok ((interrupted.ordered Sample.shop).take 4) :=
    bind_eq_ok_iff.mpr ⟨(), hCheck _ (.inr rfl), rfl⟩
  have hShown : ((interrupted.ordered Sample.shop).take 4).map (·.key) = [3, 8, 9, 4] := by
    rw [ordered_interrupted]
    decide +kernel
  obtain ⟨hNumber, hRows, hCapped⟩ := run_answers Sample.shop Sample.product "sqlite"
    interruptedCalls hCaps _ interrupted uninterruptedCalls rfl rfl rfl
  obtain ⟨sorted, hSorted, -, -, hTake⟩ := hRows _ hAll
  exact ⟨_, _, sorted, rfl, keys_interrupted, hCount, hNumber 6 hCount, hAll, hShown, hSorted, hTake,
    (hCapped 4 (by simp [interruptedCalls])).1⟩

end Winnow
