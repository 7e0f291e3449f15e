import Winnow.Store.Query

/-!
# Winnow.Proofs.Store.Gathering — what calls leave in a selection

A query is built call by call, and each call may be refused. This module says once what a run of
calls does, so that no later proof steps through it again:

* the truth of a list of conditions is the truth of its members (`holdsAll_iff`,
  `evalAny_eq_true_iff`), and the three-valued connectives only matter where they yield `true`;
* the conditions that calls add are those that the single calls add, and calls are refused as soon
  as one of them is (`mem_ofCalls_iff`, `exists_ofCalls_iff`);
* without a cap, calls that ask something of rows add exactly these conditions and change nothing
  else (`callAll_eq_iff`).

The order of the calls is not lost here: it decides which refusal comes first and how the statement
is laid out. It is only the selected rows that do not depend on it.
-/

namespace Winnow

/-- A sequence of two computations succeeds if the first one does, and then the second one. -/
theorem bind_eq_ok_iff {ε α β : Type} {x : Except ε α} {f : α → Except ε β} {b : β} :
    x >>= f = .ok b ↔ ∃ a, x = .ok a ∧ f a = .ok b := by
  cases x with
  | error e => simp [bind, Except.bind]
  | ok a => simp [bind, Except.bind]

/-- It fails if the first one does, or the first one succeeds and then the second one fails. -/
theorem bind_eq_error_iff {ε α β : Type} {x : Except ε α} {f : α → Except ε β} {e : ε} :
    x >>= f = .error e ↔ x = .error e ∨ ∃ a, x = .ok a ∧ f a = .error e := by
  cases x with
  | error e => simp [bind, Except.bind]
  | ok a => simp [bind, Except.bind]

namespace Condition

/-! ## Truth of several conditions -/

theorem disjoin_eq_true_iff (a b : Option Bool) :
    disjoin a b = some true ↔ a = some true ∨ b = some true := by
  rcases a with _ | _ | _ <;> rcases b with _ | _ | _ <;> decide

theorem evalAny_eq_true_iff (db : Database) (r : Row) (conditions : List Condition) :
    evalAny db r conditions = some true ↔ ∃ c ∈ conditions, eval db r c = some true := by
  induction conditions with
  | nil => simp [evalAny]
  | cons c cs ih =>
    rw [evalAny, disjoin_eq_true_iff, ih]
    simp

theorem holdsAll_iff (db : Database) (r : Row) (conditions : List Condition) :
    holdsAll db r conditions = true ↔ ∀ c ∈ conditions, eval db r c = some true := by
  induction conditions with
  | nil => simp [holdsAll]
  | cons c cs ih =>
    rw [holdsAll, Bool.and_eq_true, ih]
    simp

theorem eval_any_iff (db : Database) (r : Row) (conditions : List Condition) :
    eval db r (.any conditions) = some true ↔ ∃ c ∈ conditions, eval db r c = some true := by
  rw [eval, evalAny_eq_true_iff]

theorem eval_has_iff (db : Database) (r : Row) (rel : Relation) (target : Model)
    (conditions : List Condition) :
    eval db r (.has rel target conditions) = some true ↔
      ∃ x ∈ db.relatedRows rel target r, ∀ c ∈ conditions, eval db x c = some true := by
  rw [eval]
  simp only [Option.some.injEq, List.any_eq_true, holdsAll_iff]

/-! ## The conditions that calls add -/

section Calls

variable {schema : Schema} {dialect : String} {m : Model}

theorem ofCalls_cons_eq_ok_iff {call : Call} {calls : List Call} {conditions : List Condition} :
    ofCalls schema dialect m (call :: calls) = .ok conditions ↔
      ∃ added rest, ofCall? schema dialect m call = .ok added ∧
        ofCalls schema dialect m calls = .ok rest ∧ conditions = added.toList ++ rest := by
  rw [ofCalls, bind_eq_ok_iff]
  constructor
  · rintro ⟨added, hAdded, h⟩
    obtain ⟨rest, hRest, h⟩ := bind_eq_ok_iff.mp h
    exact ⟨added, rest, hAdded, hRest, (Except.ok.inj h).symm⟩
  · rintro ⟨added, rest, hAdded, hRest, rfl⟩
    exact ⟨added, hAdded, bind_eq_ok_iff.mpr ⟨rest, hRest, rfl⟩⟩

/-- The conditions that calls add are those that the single calls add. -/
theorem mem_ofCalls_iff {calls : List Call} :
    ∀ {conditions : List Condition}, ofCalls schema dialect m calls = .ok conditions →
      ∀ c : Condition, c ∈ conditions ↔
        ∃ call ∈ calls, ofCall? schema dialect m call = .ok (some c) := by
  induction calls with
  | nil =>
    intro conditions h c
    obtain rfl : [] = conditions := Except.ok.inj h
    simp
  | cons call calls ih =>
    intro conditions h c
    obtain ⟨added, rest, hAdded, hRest, rfl⟩ := ofCalls_cons_eq_ok_iff.mp h
    rw [List.mem_append, ih hRest, Option.mem_toList]
    simp [hAdded]

/-- Calls are refused exactly if one of them is. -/
theorem exists_ofCalls_iff {calls : List Call} :
    (∃ conditions, ofCalls schema dialect m calls = .ok conditions) ↔
      ∀ call ∈ calls, ∃ added, ofCall? schema dialect m call = .ok added := by
  induction calls with
  | nil => simp [ofCalls]
  | cons call calls ih =>
    rw [List.forall_mem_cons, ← ih]
    constructor
    · rintro ⟨conditions, h⟩
      obtain ⟨added, rest, hAdded, hRest, -⟩ := ofCalls_cons_eq_ok_iff.mp h
      exact ⟨⟨added, hAdded⟩, rest, hRest⟩
    · rintro ⟨⟨added, hAdded⟩, rest, hRest⟩
      exact ⟨_, ofCalls_cons_eq_ok_iff.mpr ⟨added, rest, hAdded, hRest, rfl⟩⟩

/-- What a scope adds, and that it is refused unless its relation resolves. -/
theorem ofCall?_has_eq_ok_iff {name : String} {calls : List Call} {added : Option Condition} :
    ofCall? schema dialect m (.has name calls) = .ok added ↔
      ∃ rel target conditions, m.relation? name = some rel ∧
        schema.model? rel.target = some target ∧
        ofCalls schema dialect target calls = .ok conditions ∧
        added = some (.has rel target conditions) := by
  rw [ofCall?]
  constructor
  · intro h
    split at h
    · cases h
    · rename_i rel target hFound
      obtain ⟨rel', hRelation, hTarget⟩ := Option.bind_eq_some_iff.mp hFound
      obtain ⟨target', hTarget, hPair⟩ := Option.map_eq_some_iff.mp hTarget
      cases hPair
      obtain ⟨conditions, hConditions, h⟩ := bind_eq_ok_iff.mp h
      exact ⟨rel, target, conditions, hRelation, hTarget, hConditions, (Except.ok.inj h).symm⟩
  · rintro ⟨rel, target, conditions, hRelation, hTarget, hConditions, rfl⟩
    simp only [hRelation, hTarget, Option.bind_some, Option.map_some]
    exact bind_eq_ok_iff.mpr ⟨conditions, hConditions, rfl⟩

/-- What a call adds to a query where none of its steps is refused: the column is found and takes
what it is compared with, and the calls of a group or a scope add their conditions. A group of calls
that add nothing adds nothing. -/
inductive Adds (schema : Schema) (dialect : String) (m : Model) : Call → Option Condition → Prop
  | equals {name : String} {v w : Value} {c : Column} (found : column m name = .ok c)
      (taken : c.coerce v = .ok w) :
      Adds schema dialect m (.equals name v) (some (ofEquality c false w))
  | notEquals {name : String} {v w : Value} {c : Column} (found : column m name = .ok c)
      (taken : c.coerce v = .ok w) :
      Adds schema dialect m (.notEquals name v) (some (ofEquality c true w))
  | compare {name symbol : String} {v w : Value} {c : Column} {comparison : Comparison}
      {d : Condition} (found : column m name = .ok c)
      (known : Comparison.ofSymbol? symbol = some comparison) (taken : c.coerce v = .ok w)
      (ordered : ofOrder c comparison w = .ok d) :
      Adds schema dialect m (.compare name symbol v) (some d)
  | among {name : String} {vs ws : List Value} {c : Column} (found : column m name = .ok c)
      (taken : c.coerceAll vs = .ok ws) : Adds schema dialect m (.among name vs) (some (.among c ws))
  | notAmong {name : String} {vs ws : List Value} {c : Column} (found : column m name = .ok c)
      (taken : c.coerceAll vs = .ok ws) :
      Adds schema dialect m (.notAmong name vs) (some (.notAmong c ws))
  | like {name pattern : String} {foldCase : Bool} {c : Column} (found : column m name = .ok c) :
      Adds schema dialect m (.like name pattern foldCase) (some (.like c pattern foldCase))
  | isNull {name : String} {c : Column} (found : column m name = .ok c) :
      Adds schema dialect m (.isNull name) (some (.isNull c))
  | notNull {name : String} {c : Column} (found : column m name = .ok c) :
      Adds schema dialect m (.notNull name) (some (.notNull c))
  | between {name : String} {v v' w w' : Value} {c : Column} (found : column m name = .ok c)
      (lower_taken : c.coerce v = .ok w) (upper_taken : c.coerce v' = .ok w') :
      Adds schema dialect m (.between name v v') (some (.between c w w'))
  | documentHas {name key : String} {v : Value} {c : Column} (found : column m name = .ok c) :
      Adds schema dialect m (.documentHas name key v)
        (some (.documentHas c (DocumentForm.ofDialect dialect) key v))
  | anyNone {calls : List Call} (gathered : ofCalls schema dialect m calls = .ok []) :
      Adds schema dialect m (.any calls) none
  | any {calls : List Call} {d : Condition} {ds : List Condition}
      (gathered : ofCalls schema dialect m calls = .ok (d :: ds)) :
      Adds schema dialect m (.any calls) (some (.any (d :: ds)))
  | has {name : String} {calls : List Call} {rel : Relation} {target : Model}
      {conditions : List Condition} (related : m.relation? name = some rel)
      (resolved : schema.model? rel.target = some target)
      (gathered : ofCalls schema dialect target calls = .ok conditions) :
      Adds schema dialect m (.has name calls) (some (.has rel target conditions))

/-- **A call that is taken** has gone through all its steps. -/
theorem adds_of_ofCall? {call : Call} {added : Option Condition}
    (h : ofCall? schema dialect m call = .ok added) : Adds schema dialect m call added := by
  cases call with
  | equals name v =>
    obtain ⟨c, hFound, h⟩ := bind_eq_ok_iff.mp h
    obtain ⟨w, hTaken, h⟩ := bind_eq_ok_iff.mp h
    cases h
    exact .equals hFound hTaken
  | notEquals name v =>
    obtain ⟨c, hFound, h⟩ := bind_eq_ok_iff.mp h
    obtain ⟨w, hTaken, h⟩ := bind_eq_ok_iff.mp h
    cases h
    exact .notEquals hFound hTaken
  | compare name symbol v =>
    obtain ⟨c, hFound, h⟩ := bind_eq_ok_iff.mp h
    split at h
    · cases h
    · rename_i comparison hKnown
      obtain ⟨w, hTaken, h⟩ := bind_eq_ok_iff.mp h
      obtain ⟨d, hOrdered, h⟩ := bind_eq_ok_iff.mp h
      cases h
      exact .compare hFound hKnown hTaken hOrdered
  | among name vs =>
    obtain ⟨c, hFound, h⟩ := bind_eq_ok_iff.mp h
    obtain ⟨ws, hTaken, h⟩ := bind_eq_ok_iff.mp h
    cases h
    exact .among hFound hTaken
  | notAmong name vs =>
    obtain ⟨c, hFound, h⟩ := bind_eq_ok_iff.mp h
    obtain ⟨ws, hTaken, h⟩ := bind_eq_ok_iff.mp h
    cases h
    exact .notAmong hFound hTaken
  | like name pattern foldCase =>
    obtain ⟨c, hFound, h⟩ := bind_eq_ok_iff.mp h
    cases h
    exact .like hFound
  | isNull name =>
    obtain ⟨c, hFound, h⟩ := bind_eq_ok_iff.mp h
    cases h
    exact .isNull hFound
  | notNull name =>
    obtain ⟨c, hFound, h⟩ := bind_eq_ok_iff.mp h
    cases h
    exact .notNull hFound
  | between name v v' =>
    obtain ⟨c, hFound, h⟩ := bind_eq_ok_iff.mp h
    obtain ⟨w, hLower, h⟩ := bind_eq_ok_iff.mp h
    obtain ⟨w', hUpper, h⟩ := bind_eq_ok_iff.mp h
    cases h
    exact .between hFound hLower hUpper
  | documentHas name key v =>
    obtain ⟨c, hFound, h⟩ := bind_eq_ok_iff.mp h
    dsimp only at h
    split at h
    · cases h
    · cases h
      exact .documentHas hFound
  | any calls =>
    obtain ⟨conditions, hGathered, h⟩ := bind_eq_ok_iff.mp h
    cases conditions with
    | nil =>
      cases h
      exact .anyNone hGathered
    | cons d ds =>
      cases h
      exact .any hGathered
  | has name calls =>
    obtain ⟨rel, target, conditions, hRelated, hResolved, hGathered, rfl⟩ :=
      ofCall?_has_eq_ok_iff.mp h
    exact .has hRelated hResolved hGathered
  | orderBy name direction =>
    obtain ⟨c, -, h⟩ := bind_eq_ok_iff.mp h
    cases h
  | limit count => cases h
  | fail e => cases h

end Calls

end Condition

/-- Does the call ask something of rows? Orders and caps do not. -/
def Call.isFilter : Call → Bool
  | .orderBy .. => false
  | .limit _ => false
  | _ => true

namespace Selection

/-! ## Runs of calls -/

/-- The selection with conditions added. -/
def gather (s : Selection) (conditions : List Condition) : Selection :=
  { s with conditions := s.conditions ++ conditions }

@[simp] theorem gather_nil (s : Selection) : s.gather [] = s := by simp [gather]

@[simp] theorem gather_gather (s : Selection) (cs ds : List Condition) :
    (s.gather cs).gather ds = s.gather (cs ++ ds) := by simp [gather]

@[simp] theorem gather_model (s : Selection) (cs : List Condition) :
    (s.gather cs).model = s.model := rfl

@[simp] theorem gather_dialect (s : Selection) (cs : List Condition) :
    (s.gather cs).dialect = s.dialect := rfl

variable {schema : Schema} {s s' : Selection} {calls : List Call}

theorem addCondition_of_uncapped (hCap : s.cap = none) (c : Condition) :
    s.addCondition c = .ok (s.gather [c]) := by
  simp [addCondition, uncapped, hCap, gather, Except.map]

/-- A call that asks something of rows adds its condition, if it has one. -/
theorem call_eq_elim {call : Call} (hCall : call.isFilter = true) :
    s.call schema call = Condition.ofCall? schema s.dialect s.model call >>= fun added =>
      added.elim (.ok s) s.addCondition := by
  cases call with
  | orderBy => simp [Call.isFilter] at hCall
  | limit => simp [Call.isFilter] at hCall
  | _ =>
    simp only [Selection.call]
    congr 1
    funext added
    cases added <;> rfl

/-- One call on a selection without a cap: it adds its condition, if it has one, or is refused. -/
theorem call_of_isFilter {call : Call} (hCall : call.isFilter = true) (hCap : s.cap = none) :
    s.call schema call = (Condition.ofCall? schema s.dialect s.model call).map fun added =>
      s.gather added.toList := by
  rw [call_eq_elim hCall]
  cases Condition.ofCall? schema s.dialect s.model call with
  | error e => rfl
  | ok added =>
    cases added with
    | none => simp [bind, Except.bind, Except.map]
    | some c => exact addCondition_of_uncapped hCap c

/-- **A run of calls.** Without a cap, calls that ask something of rows succeed exactly if all have
conditions, and then these conditions are all that they change. -/
theorem callAll_eq_iff (hCalls : ∀ call ∈ calls, call.isFilter = true) (hCap : s.cap = none) :
    s.callAll schema calls = (s', none) ↔
      ∃ conditions, Condition.ofCalls schema s.dialect s.model calls = .ok conditions ∧
        s' = s.gather conditions := by
  -- the selection grows with each call, but its model, dialect and cap stay
  induction calls generalizing s with
  | nil =>
    have hNil : Condition.ofCalls schema s.dialect s.model [] = .ok [] := rfl
    simp [callAll, hNil, eq_comm]
  | cons call calls ih =>
    obtain ⟨hCall, hRest⟩ := List.forall_mem_cons.mp hCalls
    rw [callAll, call_of_isFilter hCall hCap]
    cases hAdded : Condition.ofCall? schema s.dialect s.model call with
    | error e => simp [Except.map, Condition.ofCalls_cons_eq_ok_iff, hAdded]
    | ok added =>
      simp only [Except.map]
      rw [ih hRest (s := s.gather added.toList) hCap, gather_dialect, gather_model]
      constructor
      · rintro ⟨rest, hOk, rfl⟩
        refine ⟨added.toList ++ rest, ?_, gather_gather s _ _⟩
        exact Condition.ofCalls_cons_eq_ok_iff.mpr ⟨added, rest, hAdded, hOk, rfl⟩
      · rintro ⟨conditions, hOk, rfl⟩
        obtain ⟨added', rest, hAdded', hRestOk, rfl⟩ := Condition.ofCalls_cons_eq_ok_iff.mp hOk
        obtain rfl : added = added' := Except.ok.inj (hAdded.symm.trans hAdded')
        exact ⟨rest, hRestOk, (gather_gather s _ _).symm⟩

/-- A run of calls without an error is named by its selection. -/
theorem eq_of_snd_eq_none {p : Selection × Option Error} (h : p.2 = none) : p = (p.1, none) := by
  obtain ⟨selection, error⟩ := p
  cases h
  rfl

/-- What a run of calls leaves: the model, the dialect, the order and the cap are those of before. -/
theorem exists_gather_of_callAll (hCalls : ∀ call ∈ calls, call.isFilter = true)
    (hCap : s.cap = none) (h : s.callAll schema calls = (s', none)) :
    ∃ conditions, s' = s.gather conditions := by
  obtain ⟨conditions, -, hGather⟩ := (callAll_eq_iff hCalls hCap).mp h
  exact ⟨conditions, hGather⟩

theorem cap_of_callAll (hCalls : ∀ call ∈ calls, call.isFilter = true) (hCap : s.cap = none)
    (h : s.callAll schema calls = (s', none)) : s'.cap = none := by
  obtain ⟨conditions, rfl⟩ := exists_gather_of_callAll hCalls hCap h
  exact hCap

/-- Whether a run of calls is refused depends on the calls one by one, not on their order. -/
theorem callAll_succeeds_iff (hCalls : ∀ call ∈ calls, call.isFilter = true)
    (hCap : s.cap = none) :
    (s.callAll schema calls).2 = none ↔
      ∀ call ∈ calls, ∃ added, Condition.ofCall? schema s.dialect s.model call = .ok added := by
  rw [← Condition.exists_ofCalls_iff]
  constructor
  · intro h
    obtain ⟨conditions, hOk, -⟩ := (callAll_eq_iff hCalls hCap).mp (eq_of_snd_eq_none h)
    exact ⟨conditions, hOk⟩
  · rintro ⟨conditions, hOk⟩
    rw [(callAll_eq_iff hCalls hCap).mpr ⟨conditions, hOk, rfl⟩]

/-! ## The rows of a selection -/

theorem mem_matching_iff (db : Database) (s : Selection) (r : Row) :
    r ∈ s.matching db ↔
      r ∈ db.rows s.model ∧ ∀ c ∈ s.conditions, Condition.eval db r c = some true := by
  rw [matching, List.mem_filter, Condition.holdsAll_iff]

/-- Every row of a selection is a row of the table. -/
theorem mem_rows_of_mem_ordered {db : Database} {s : Selection} {r : Row} (h : r ∈ s.ordered db) :
    r ∈ db.rows s.model :=
  (List.mem_filter.mp (List.mem_mergeSort.mp h)).1

@[simp] theorem matching_ofModel (db : Database) (m : Model) (dialect : String) :
    (ofModel m dialect).matching db = db.rows m := by
  simp [matching, ofModel, Condition.holdsAll]

theorem check_eq_ok_iff {db : Database} {q : Query} :
    s.check db q = .ok () ↔ (s.refusal? q).or (s.fault? db q) = none := by
  rw [check]
  cases (s.refusal? q).or (s.fault? db q) with
  | none => simp
  | some e => simp

/-- When the store answers a selection without a cap, and with which rows. -/
theorem all_eq_ok_iff {db : Database} {rows : List Row} (hCap : s.cap = none) :
    s.all db = .ok rows ↔ s.check db .rows = .ok () ∧ rows = s.ordered db := by
  simp only [all, hCap]
  rw [bind_eq_ok_iff]
  constructor
  · rintro ⟨⟨⟩, hCheck, h⟩
    exact ⟨hCheck, (Except.ok.inj h).symm⟩
  · rintro ⟨hCheck, rfl⟩
    exact ⟨(), hCheck, rfl⟩

/-- The rows that the store yields are those that satisfy all conditions. -/
theorem mem_all_iff {db : Database} {rows : List Row} (hCap : s.cap = none)
    (h : s.all db = .ok rows) (r : Row) : r ∈ rows ↔ r ∈ s.matching db := by
  obtain ⟨-, rfl⟩ := (all_eq_ok_iff hCap).mp h
  rw [ordered, inOrder, List.mem_mergeSort]

/-- Selections of one table have the same rows as soon as they have the same members. -/
theorem matching_eq_iff {db : Database} {s t : Selection} (hModel : s.model = t.model) :
    s.matching db = t.matching db ↔ ∀ r, r ∈ s.matching db ↔ r ∈ t.matching db := by
  constructor
  · intro h r
    rw [h]
  · intro h
    -- both filter the rows of one table, so the same members stand in the same places
    simp only [matching, hModel, List.mem_filter] at h ⊢
    exact List.filter_congr fun r hr => Bool.eq_iff_iff.mpr
      ((and_iff_right hr).symm.trans ((h r).trans (and_iff_right hr)))

section Runs

variable {db : Database} {s s₁ s₂ : Selection} {calls₁ calls₂ : List Call}

/-- Two runs of calls on one query leave the same rows exactly if they leave the same members. -/
theorem matching_eq_iff_of_callAll (hCap : s.cap = none)
    (hCalls₁ : ∀ call ∈ calls₁, call.isFilter = true)
    (hCalls₂ : ∀ call ∈ calls₂, call.isFilter = true)
    (h₁ : s.callAll schema calls₁ = (s₁, none)) (h₂ : s.callAll schema calls₂ = (s₂, none)) :
    s₁.matching db = s₂.matching db ↔ ∀ r, r ∈ s₁.matching db ↔ r ∈ s₂.matching db := by
  obtain ⟨cs₁, rfl⟩ := exists_gather_of_callAll hCalls₁ hCap h₁
  obtain ⟨cs₂, rfl⟩ := exists_gather_of_callAll hCalls₂ hCap h₂
  exact matching_eq_iff rfl

/-- The store yields the same rows after two runs of calls on one query exactly if they leave the
same rows: both are put in the order that the query had before. -/
theorem rows_eq_iff_of_callAll (hCap : s.cap = none)
    (hCalls₁ : ∀ call ∈ calls₁, call.isFilter = true)
    (hCalls₂ : ∀ call ∈ calls₂, call.isFilter = true)
    (h₁ : s.callAll schema calls₁ = (s₁, none)) (h₂ : s.callAll schema calls₂ = (s₂, none))
    {rows₁ rows₂ : List Row} (hRows₁ : s₁.all db = .ok rows₁) (hRows₂ : s₂.all db = .ok rows₂) :
    rows₁ = rows₂ ↔ s₁.matching db = s₂.matching db := by
  have hCap₁ : s₁.cap = none := cap_of_callAll hCalls₁ hCap h₁
  have hCap₂ : s₂.cap = none := cap_of_callAll hCalls₂ hCap h₂
  constructor
  · intro hSame
    rw [matching_eq_iff_of_callAll hCap hCalls₁ hCalls₂ h₁ h₂]
    intro r
    rw [← mem_all_iff hCap₁ hRows₁, ← mem_all_iff hCap₂ hRows₂, hSame]
  · intro hSame
    obtain ⟨-, rfl⟩ := (all_eq_ok_iff hCap₁).mp hRows₁
    obtain ⟨-, rfl⟩ := (all_eq_ok_iff hCap₂).mp hRows₂
    obtain ⟨cs₁, rfl⟩ := exists_gather_of_callAll hCalls₁ hCap h₁
    obtain ⟨cs₂, rfl⟩ := exists_gather_of_callAll hCalls₂ hCap h₂
    rw [ordered, ordered, hSame]
    rfl

end Runs

end Selection

end Winnow
