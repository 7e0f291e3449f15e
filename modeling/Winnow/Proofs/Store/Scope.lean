import Winnow.Proofs.Store.Gathering
import Winnow.Sample.Shop

/-!
# Winnow.Proofs.Store.Scope — what a tree of calls means

The same call means *and* at the top of a query and in a scope of related rows, and *or* in a group.
This module gives trees of calls a meaning of their own, in which that difference is written down
once (`Call.Holds`), and proves that a query selects by it.

* `Call.isEffective`: a group asks for something only if one of its calls does. All other calls do.
* `Call.Holds db dialect m r call`: the call holds of the row `r` of the model `m`. A single call
  holds if its comparison is true, and not if it is unknown. A group holds if one of its effective
  calls does. A scope holds if some related row satisfies all its effective calls; a scope without
  any is satisfied by every related row.
* `Call.isExact`: the condition that a call adds is there exactly if the call is effective, and is
  true of exactly the rows of which the call holds. This is the induction over the tree; groups and
  scopes each have a lemma that takes it from their calls.
* `Selection.mem_matching_callAll_iff` carries it to runs of calls, and `rows_iff_calls_hold` to the
  rows that a query yields.

How deep groups and scopes are nested, which models the relations lead to and whether they lead back
does not matter. What the single comparisons say of cells is not opened here.
-/

namespace Winnow

namespace Call

/-! ## Effective calls -/

mutual

/-- Does the call ask for anything? A group does if one of its calls does. -/
def isEffective : Call → Bool
  | any calls => someEffective calls
  | _ => true

/-- Does one of the calls ask for anything? -/
def someEffective : List Call → Bool
  | [] => false
  | call :: calls => isEffective call || someEffective calls

end

/-- Is the call a single one, neither a group nor a scope? -/
def isLeaf : Call → Bool
  | any _ => false
  | has _ _ => false
  | _ => true

theorem someEffective_iff {calls : List Call} :
    someEffective calls = true ↔ ∃ call ∈ calls, call.isEffective = true := by
  induction calls with
  | nil => simp [someEffective]
  | cons call calls ih => simp [someEffective, ih]

theorem isEffective_any_iff {calls : List Call} :
    (any calls).isEffective = true ↔ ∃ call ∈ calls, call.isEffective = true := by
  rw [isEffective, someEffective_iff]

theorem isEffective_has (name : String) (calls : List Call) :
    (has name calls).isEffective = true := rfl

theorem isEffective_of_isLeaf {call : Call} (h : call.isLeaf = true) :
    call.isEffective = true := by
  cases call with
  | any calls => simp [isLeaf] at h
  | _ => rfl

/-! ## The meaning of a tree -/

/-- The call holds of a row of the model. -/
inductive Holds (db : Database) (dialect : String) : Model → Row → Call → Prop
  /-- A single call: its comparison is true. -/
  | leaf {m : Model} {r : Row} {call : Call} {c : Condition} :
      call.isLeaf = true → Condition.ofCall? db.schema dialect m call = .ok (some c) →
      Condition.eval db r c = some true → Holds db dialect m r call
  /-- A group: one of its effective calls holds. -/
  | any {m : Model} {r : Row} {calls : List Call} {call : Call} :
      call ∈ calls → call.isEffective = true → Holds db dialect m r call →
      Holds db dialect m r (.any calls)
  /-- A scope: all its effective calls hold of some related row. -/
  | has {m target : Model} {r x : Row} {name : String} {rel : Relation} {calls : List Call} :
      m.relation? name = some rel → db.schema.model? rel.target = some target →
      x ∈ db.relatedRows rel target r →
      (∀ call ∈ calls, call.isEffective = true → Holds db dialect target x call) →
      Holds db dialect m r (.has name calls)

section Inversion

variable {db : Database} {dialect : String} {m target : Model} {r : Row} {calls : List Call}

theorem holds_leaf_iff {call : Call} {c : Condition} (hLeaf : call.isLeaf = true)
    (hCondition : Condition.ofCall? db.schema dialect m call = .ok (some c)) :
    Holds db dialect m r call ↔ Condition.eval db r c = some true := by
  constructor
  · intro h
    cases h with
    | leaf _ hCondition' hEval =>
      obtain rfl : c = _ := Option.some.inj (Except.ok.inj (hCondition.symm.trans hCondition'))
      exact hEval
    | any => simp [isLeaf] at hLeaf
    | has => simp [isLeaf] at hLeaf
  · intro hEval
    exact .leaf hLeaf hCondition hEval

theorem holds_any_iff :
    Holds db dialect m r (.any calls) ↔
      ∃ call ∈ calls, call.isEffective = true ∧ Holds db dialect m r call := by
  constructor
  · intro h
    cases h with
    | leaf hLeaf => simp [isLeaf] at hLeaf
    | any hMem hEffective hHolds => exact ⟨_, hMem, hEffective, hHolds⟩
  · rintro ⟨call, hMem, hEffective, hHolds⟩
    exact .any hMem hEffective hHolds

theorem holds_has_iff {name : String} {rel : Relation} (hRelation : m.relation? name = some rel)
    (hTarget : db.schema.model? rel.target = some target) :
    Holds db dialect m r (.has name calls) ↔
      ∃ x ∈ db.relatedRows rel target r,
        ∀ call ∈ calls, call.isEffective = true → Holds db dialect target x call := by
  constructor
  · intro h
    cases h with
    | leaf hLeaf => simp [isLeaf] at hLeaf
    | has hRelation' hTarget' hx hAll =>
      obtain rfl : rel = _ := Option.some.inj (hRelation.symm.trans hRelation')
      obtain rfl : target = _ := Option.some.inj (hTarget.symm.trans hTarget')
      exact ⟨_, hx, hAll⟩
  · rintro ⟨x, hx, hAll⟩
    exact .has hRelation hTarget hx hAll

end Inversion

/-! ## Conditions say what their calls mean -/

/-- What a call adds to a query is exact: there is a condition exactly if the call is effective, and
it is true of exactly the rows of which the call holds. -/
def IsExact (db : Database) (dialect : String) (call : Call) : Prop :=
  ∀ (m : Model) (added : Option Condition),
    Condition.ofCall? db.schema dialect m call = .ok added →
      (added.isSome = true ↔ call.isEffective = true) ∧
        ∀ c, added = some c → ∀ r, Condition.eval db r c = some true ↔ Holds db dialect m r call

/-- A single call that is not refused adds a condition. -/
theorem isSome_of_isLeaf {schema : Schema} {dialect : String} {m : Model} {call : Call}
    {added : Option Condition} (hLeaf : call.isLeaf = true)
    (h : Condition.ofCall? schema dialect m call = .ok added) : added.isSome = true := by
  cases Condition.adds_of_ofCall? h with
  | anyNone | any | has => cases hLeaf
  | _ => rfl

section Exact

variable {db : Database} {dialect : String} {calls : List Call}

theorem isExact_leaf {call : Call} (hLeaf : call.isLeaf = true) : IsExact db dialect call := by
  intro m added h
  refine ⟨?_, ?_⟩
  · simp [isSome_of_isLeaf hLeaf h, isEffective_of_isLeaf hLeaf]
  · rintro c rfl r
    exact (holds_leaf_iff hLeaf h).symm

/-- An effective call among exact ones has its condition among theirs. -/
theorem IsExact.exists_condition {call : Call} (hExact : IsExact db dialect call) {m : Model}
    {conditions : List Condition} (hMem : call ∈ calls)
    (h : Condition.ofCalls db.schema dialect m calls = .ok conditions)
    (hEffective : call.isEffective = true) :
    ∃ c ∈ conditions, ∀ r, Condition.eval db r c = some true ↔ Holds db dialect m r call := by
  obtain ⟨added, hAdded⟩ := Condition.exists_ofCalls_iff.mp ⟨conditions, h⟩ call hMem
  obtain ⟨hSome, hEval⟩ := hExact m added hAdded
  obtain ⟨c, rfl⟩ := Option.isSome_iff_exists.mp (hSome.mpr hEffective)
  exact ⟨c, (Condition.mem_ofCalls_iff h c).mpr ⟨call, hMem, hAdded⟩, hEval c rfl⟩

/-- A condition among those of exact calls is that of an effective one. -/
theorem exists_call_of_mem (hExact : ∀ call ∈ calls, IsExact db dialect call) {m : Model}
    {conditions : List Condition} (h : Condition.ofCalls db.schema dialect m calls = .ok conditions)
    {c : Condition} (hMem : c ∈ conditions) :
    ∃ call ∈ calls, call.isEffective = true ∧
      ∀ r, Condition.eval db r c = some true ↔ Holds db dialect m r call := by
  obtain ⟨call, hCall, hAdded⟩ := (Condition.mem_ofCalls_iff h c).mp hMem
  obtain ⟨hSome, hEval⟩ := hExact call hCall m _ hAdded
  exact ⟨call, hCall, hSome.mp rfl, hEval c rfl⟩

/-- In a scope: all conditions are true exactly if all effective calls hold. -/
theorem forall_eval_iff (hExact : ∀ call ∈ calls, IsExact db dialect call) {m : Model}
    {conditions : List Condition} (h : Condition.ofCalls db.schema dialect m calls = .ok conditions)
    (r : Row) :
    (∀ c ∈ conditions, Condition.eval db r c = some true) ↔
      ∀ call ∈ calls, call.isEffective = true → Holds db dialect m r call := by
  constructor
  · intro hAll call hMem hEffective
    obtain ⟨c, hc, hEval⟩ := (hExact call hMem).exists_condition hMem h hEffective
    exact (hEval r).mp (hAll c hc)
  · intro hAll c hc
    obtain ⟨call, hMem, hEffective, hEval⟩ := exists_call_of_mem hExact h hc
    exact (hEval r).mpr (hAll call hMem hEffective)

/-- In a group: one condition is true exactly if one effective call holds. -/
theorem exists_eval_iff (hExact : ∀ call ∈ calls, IsExact db dialect call) {m : Model}
    {conditions : List Condition} (h : Condition.ofCalls db.schema dialect m calls = .ok conditions)
    (r : Row) :
    (∃ c ∈ conditions, Condition.eval db r c = some true) ↔
      ∃ call ∈ calls, call.isEffective = true ∧ Holds db dialect m r call := by
  constructor
  · rintro ⟨c, hc, hTrue⟩
    obtain ⟨call, hMem, hEffective, hEval⟩ := exists_call_of_mem hExact h hc
    exact ⟨call, hMem, hEffective, (hEval r).mp hTrue⟩
  · rintro ⟨call, hMem, hEffective, hHolds⟩
    obtain ⟨c, hc, hEval⟩ := (hExact call hMem).exists_condition hMem h hEffective
    exact ⟨c, hc, (hEval r).mpr hHolds⟩

/-- Calls have conditions exactly if one of them is effective. -/
theorem conditions_ne_nil_iff (hExact : ∀ call ∈ calls, IsExact db dialect call) {m : Model}
    {conditions : List Condition}
    (h : Condition.ofCalls db.schema dialect m calls = .ok conditions) :
    conditions ≠ [] ↔ ∃ call ∈ calls, call.isEffective = true := by
  constructor
  · intro hNe
    obtain ⟨c, hc⟩ := List.exists_mem_of_ne_nil conditions hNe
    obtain ⟨call, hMem, hEffective, -⟩ := exists_call_of_mem hExact h hc
    exact ⟨call, hMem, hEffective⟩
  · rintro ⟨call, hMem, hEffective⟩
    obtain ⟨c, hc, -⟩ := (hExact call hMem).exists_condition hMem h hEffective
    exact List.ne_nil_of_mem hc

theorem isExact_any (hExact : ∀ call ∈ calls, IsExact db dialect call) :
    IsExact db dialect (.any calls) := by
  intro m added h
  rw [isEffective_any_iff]
  cases Condition.adds_of_ofCall? h with
  | anyNone hConditions =>
    -- a group without conditions is dropped, and none of its calls is effective
    rw [← conditions_ne_nil_iff hExact hConditions]
    exact ⟨by simp, by simp⟩
  | any hConditions =>
    rw [← conditions_ne_nil_iff hExact hConditions]
    refine ⟨by simp, ?_⟩
    rintro _ ⟨⟩ r
    rw [Condition.eval_any_iff, holds_any_iff]
    exact exists_eval_iff hExact hConditions r

theorem isExact_has (name : String) (hExact : ∀ call ∈ calls, IsExact db dialect call) :
    IsExact db dialect (.has name calls) := by
  intro m added h
  obtain ⟨rel, target, conditions, hRelation, hTarget, hConditions, rfl⟩ :=
    Condition.ofCall?_has_eq_ok_iff.mp h
  refine ⟨by simp [isEffective_has], ?_⟩
  rintro _ ⟨⟩ r
  rw [Condition.eval_has_iff, holds_has_iff hRelation hTarget]
  exact exists_congr fun x => and_congr_right fun _ => forall_eval_iff hExact hConditions x

end Exact

/-- **Every tree of calls is exact.** The induction is on the tree: groups and scopes are exact as
soon as their calls are. -/
theorem isExact (db : Database) (dialect : String) : ∀ call : Call, IsExact db dialect call
  | .any _ => isExact_any fun call _ => isExact db dialect call
  | .has name _ => isExact_has name fun call _ => isExact db dialect call
  | .equals .. => isExact_leaf rfl
  | .notEquals .. => isExact_leaf rfl
  | .compare .. => isExact_leaf rfl
  | .among .. => isExact_leaf rfl
  | .notAmong .. => isExact_leaf rfl
  | .like .. => isExact_leaf rfl
  | .isNull _ => isExact_leaf rfl
  | .notNull _ => isExact_leaf rfl
  | .between .. => isExact_leaf rfl
  | .documentHas .. => isExact_leaf rfl
  | .orderBy .. => isExact_leaf rfl
  | .limit _ => isExact_leaf rfl
  | .fail _ => isExact_leaf rfl

end Call

/-! ## Runs of calls -/

/-- A run of calls keeps exactly those rows of which all its effective calls hold. -/
theorem Selection.mem_matching_callAll_iff {db : Database} {s s' : Selection} {calls : List Call}
    (hCalls : ∀ call ∈ calls, call.isFilter = true) (hCap : s.cap = none)
    (h : s.callAll db.schema calls = (s', none)) (r : Row) :
    r ∈ s'.matching db ↔ r ∈ s.matching db ∧
      ∀ call ∈ calls, call.isEffective = true → Call.Holds db s.dialect s.model r call := by
  obtain ⟨conditions, hConditions, rfl⟩ := (callAll_eq_iff hCalls hCap).mp h
  have hNew := Call.forall_eval_iff (fun call _ => Call.isExact db s.dialect call) hConditions r
  rw [mem_matching_iff, mem_matching_iff, ← hNew, gather_model, and_assoc]
  simp only [gather, List.forall_mem_append]

/-- **The rows of a tree of calls.** A query that has taken the calls selects the rows of the table
of which every effective call holds; these are the rows that the store yields when it answers. -/
theorem rows_iff_calls_hold (db : Database) (m : Model) (dialect : String) (calls : List Call)
    (s : Selection) (hCalls : ∀ call ∈ calls, call.isFilter = true)
    (h : (Selection.ofModel m dialect).callAll db.schema calls = (s, none)) :
    (∀ r, r ∈ s.matching db ↔ r ∈ db.rows m ∧
      ∀ call ∈ calls, call.isEffective = true → Call.Holds db dialect m r call) ∧
    ∀ rows, s.all db = .ok rows → ∀ r, r ∈ rows ↔ r ∈ db.rows m ∧
      ∀ call ∈ calls, call.isEffective = true → Call.Holds db dialect m r call := by
  have hMatching (r : Row) : r ∈ s.matching db ↔ r ∈ db.rows m ∧
      ∀ call ∈ calls, call.isEffective = true → Call.Holds db dialect m r call := by
    rw [Selection.mem_matching_callAll_iff hCalls rfl h, Selection.matching_ofModel]
    rfl
  have hCap : s.cap = none := Selection.cap_of_callAll hCalls rfl h
  refine ⟨hMatching, ?_⟩
  intro rows hRows r
  rw [Selection.mem_all_iff hCap hRows, hMatching]

/-- A group of a comparison and a scope, which has a group without calls in it, and beside it a group
of such a group. -/
def nestedCalls : List Call :=
  [.any [.equals "name" (.text "12345"),
      .has "category" [.any [], .equals "name" (.text "Phones")]],
    .any [.any []]]

/-- The products that are called `12345` or are phones: the groups without calls ask for nothing. -/
theorem rows_iff_nestedCalls_hold :
    ∃ s rows, (Selection.ofModel Sample.product "sqlite").callAll Sample.shop.schema nestedCalls =
        (s, none) ∧
      (s.matching Sample.shop).map (·.key) = [1, 2, 6, 9] ∧
      s.all Sample.shop = .ok rows ∧
      ∀ r, r ∈ rows ↔ r ∈ Sample.shop.rows Sample.product ∧
        ∀ call ∈ nestedCalls, call.isEffective = true →
          Call.Holds Sample.shop "sqlite" Sample.product r call := by
  have hOk : ((Selection.ofModel Sample.product "sqlite").callAll Sample.shop.schema
      nestedCalls).2 = none := Option.isNone_iff_eq_none.mp (by decide)
  have hCheck : ((Selection.ofModel Sample.product "sqlite").callAll Sample.shop.schema
      nestedCalls).1.check Sample.shop .rows = .ok () :=
    Selection.check_eq_ok_iff.mpr (Option.isNone_iff_eq_none.mp (by decide +kernel))
  have hRows := (Selection.all_eq_ok_iff rfl).mpr ⟨hCheck, rfl⟩
  refine ⟨_, _, Selection.eq_of_snd_eq_none hOk, by decide, hRows, ?_⟩
  exact (rows_iff_calls_hold Sample.shop Sample.product "sqlite" nestedCalls _ (by decide)
    (Selection.eq_of_snd_eq_none hOk)).2 _ hRows

end Winnow
