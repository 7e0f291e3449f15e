import Winnow.Proofs.Store.Scope

/-!
# Winnow.Proofs.Store.Chain — scopes in scopes ask for chains of rows

A scope in a scope in a scope, along names of relations, asks for a row at the end of a chain: a row
related to the first one, a row related to that one, and so on. What is asked for inside the
innermost scope is asked of the last row (`Call.nest_holds_iff`). The induction is on the names. How
a relation is carried, by the one table or by the other, is not seen here, and the models that the
names lead through may well come back to the first.
-/

namespace Winnow

/-! ## Chains -/

/-- The model that names of relations lead to, the outermost relation first. -/
def Schema.follow? (schema : Schema) : Model → List String → Option Model
  | m, [] => some m
  | m, name :: names =>
    (m.relation? name).bind fun rel => (schema.model? rel.target).bind fun next =>
      follow? schema next names

theorem Schema.follow?_cons_eq_some_iff {schema : Schema} {m target : Model} {name : String}
    {names : List String} :
    schema.follow? m (name :: names) = some target ↔
      ∃ rel next, m.relation? name = some rel ∧ schema.model? rel.target = some next ∧
        schema.follow? next names = some target := by
  simp only [follow?, Option.bind_eq_some_iff]
  constructor
  · rintro ⟨rel, hRelation, next, hNext, h⟩
    exact ⟨rel, next, hRelation, hNext, h⟩
  · rintro ⟨rel, next, hRelation, hNext, h⟩
    exact ⟨rel, hRelation, next, hNext, h⟩

/-- From the row `r` of the model `m` names of relations lead to the row `x` of the model `target`:
every row of the chain is related to the one before it. -/
inductive Database.Chain (db : Database) : Model → Row → List String → Model → Row → Prop
  | here {m : Model} {r : Row} : Chain db m r [] m r
  | step {m next target : Model} {r y x : Row} {name : String} {names : List String}
      {rel : Relation} :
      m.relation? name = some rel → db.schema.model? rel.target = some next →
      y ∈ db.relatedRows rel next r → Chain db next y names target x →
      Chain db m r (name :: names) target x

section Chain

variable {db : Database} {m next target : Model} {r x : Row} {name : String} {names : List String}

theorem Database.chain_nil_iff : db.Chain m r [] m x ↔ x = r := by
  constructor
  · intro h
    cases h
    rfl
  · rintro rfl
    exact .here

theorem Database.chain_cons_iff {rel : Relation} (hRelation : m.relation? name = some rel)
    (hNext : db.schema.model? rel.target = some next) :
    db.Chain m r (name :: names) target x ↔
      ∃ y ∈ db.relatedRows rel next r, db.Chain next y names target x := by
  constructor
  · intro h
    cases h with
    | step hRelation' hNext' hRelated hChain =>
      obtain rfl : rel = _ := Option.some.inj (hRelation.symm.trans hRelation')
      obtain rfl : next = _ := Option.some.inj (hNext.symm.trans hNext')
      exact ⟨_, hRelated, hChain⟩
  · rintro ⟨y, hRelated, hChain⟩
    exact .step hRelation hNext hRelated hChain

/-- A chain ends in a row of the table that the names lead to. -/
theorem Database.Chain.mem_rows (h : db.Chain m r names target x) (hRow : r ∈ db.rows m) :
    x ∈ db.rows target := by
  induction h with
  | here => exact hRow
  | step _ _ hRelated _ ih => exact ih (List.mem_filter.mp hRelated).1

/-! ## Nested scopes -/

/-- Calls in a scope for each name, the first name outermost. -/
def Call.nest : List String → List Call → List Call
  | [], calls => calls
  | name :: names, calls => [.has name (nest names calls)]

theorem Call.isFilter_of_mem_nest {calls : List Call}
    (hCalls : ∀ call ∈ calls, call.isFilter = true) :
    ∀ call ∈ nest names calls, call.isFilter = true := by
  cases names with
  | nil => exact hCalls
  | cons name names =>
    intro call h
    rw [List.mem_singleton.mp h]
    rfl

/-- Calls in scopes that resolve are refused exactly if the calls are on the last model. -/
theorem Condition.exists_ofCalls_nest_iff {schema : Schema} {dialect : String} {calls : List Call}
    (hFollow : schema.follow? m names = some target) :
    (∃ conditions, ofCalls schema dialect m (Call.nest names calls) = .ok conditions) ↔
      ∃ conditions, ofCalls schema dialect target calls = .ok conditions := by
  induction names generalizing m with
  | nil =>
    obtain rfl : m = target := Option.some.inj hFollow
    rfl
  | cons name names ih =>
    obtain ⟨rel, next, hRelation, hNext, hFollow⟩ := Schema.follow?_cons_eq_some_iff.mp hFollow
    rw [← ih hFollow, Call.nest, exists_ofCalls_iff, List.forall_mem_singleton]
    constructor
    · rintro ⟨added, hAdded⟩
      obtain ⟨rel', next', conditions, hRelation', hNext', hConditions, -⟩ :=
        ofCall?_has_eq_ok_iff.mp hAdded
      obtain rfl : rel = rel' := Option.some.inj (hRelation.symm.trans hRelation')
      obtain rfl : next = next' := Option.some.inj (hNext.symm.trans hNext')
      exact ⟨conditions, hConditions⟩
    · rintro ⟨conditions, hConditions⟩
      exact ⟨_, ofCall?_has_eq_ok_iff.mpr
        ⟨rel, next, conditions, hRelation, hNext, hConditions, rfl⟩⟩

/-- **Nested scopes ask for a chain**, and the calls in them for its last row. -/
theorem Call.nest_holds_iff {dialect : String} {calls : List Call}
    (hFollow : db.schema.follow? m names = some target) :
    (∀ call ∈ nest names calls, call.isEffective = true → Holds db dialect m r call) ↔
      ∃ x, db.Chain m r names target x ∧
        ∀ call ∈ calls, call.isEffective = true → Holds db dialect target x call := by
  induction names generalizing m r with
  | nil =>
    obtain rfl : m = target := Option.some.inj hFollow
    simp only [Database.chain_nil_iff, exists_eq_left]
    rfl
  | cons name names ih =>
    obtain ⟨rel, next, hRelation, hNext, hFollow⟩ := Schema.follow?_cons_eq_some_iff.mp hFollow
    simp only [nest, List.forall_mem_singleton, isEffective_has, forall_const,
      holds_has_iff hRelation hNext, Database.chain_cons_iff hRelation hNext]
    -- the row that the outermost scope finds is the next one of the chain
    constructor
    · rintro ⟨y, hRelated, hAll⟩
      obtain ⟨x, hChain, hHolds⟩ := (ih hFollow).mp hAll
      exact ⟨x, ⟨y, hRelated, hChain⟩, hHolds⟩
    · rintro ⟨x, ⟨y, hRelated, hChain⟩, hHolds⟩
      exact ⟨y, hRelated, (ih hFollow).mpr ⟨x, hChain, hHolds⟩⟩

/-- Calls in scopes on a query of its own, compared with the calls by themselves on a query of the
last model. -/
theorem Selection.matching_nest {dialect : String} {calls : List Call} {direct : Selection}
    (hFollow : db.schema.follow? m names = some target)
    (hCalls : ∀ call ∈ calls, call.isFilter = true)
    (hDirect : (ofModel target dialect).callAll db.schema calls = (direct, none)) :
    ∃ s, (ofModel m dialect).callAll db.schema (Call.nest names calls) = (s, none) ∧
      ∀ r, r ∈ s.matching db ↔
        r ∈ db.rows m ∧ ∃ x, db.Chain m r names target x ∧ x ∈ direct.matching db := by
  have hNest : ∀ call ∈ Call.nest names calls, call.isFilter = true :=
    Call.isFilter_of_mem_nest hCalls
  obtain ⟨conditions, hConditions, -⟩ := (callAll_eq_iff hCalls rfl).mp hDirect
  obtain ⟨conditions', hConditions'⟩ :=
    (Condition.exists_ofCalls_nest_iff hFollow).mpr ⟨conditions, hConditions⟩
  have h := (callAll_eq_iff hNest (s := ofModel m dialect) rfl).mpr ⟨conditions', hConditions', rfl⟩
  refine ⟨_, h, ?_⟩
  intro r
  rw [mem_matching_callAll_iff hNest rfl h, matching_ofModel]
  refine and_congr_right fun hRow => (Call.nest_holds_iff hFollow).trans ?_
  refine exists_congr fun x => and_congr_right fun hChain => ?_
  -- the last row of a chain is in the table that the names lead to
  rw [mem_matching_callAll_iff hCalls rfl hDirect, matching_ofModel]
  exact (and_iff_right (hChain.mem_rows hRow)).symm

end Chain

end Winnow
