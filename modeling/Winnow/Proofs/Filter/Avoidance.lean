import Winnow.Proofs.Filter.Entry
import Winnow.Proofs.Store.Agreement
import Winnow.Proofs.Store.Ordering
import Winnow.Proofs.Store.Scope

/-!
# Winnow.Proofs.Filter.Avoidance — requests that name no secret column

A call avoids secret columns if it names none of them, on the model that it is made on or, inside a
scope, on the related one, and if no relation that it follows is carried by one (`Call.Avoids`). Then
the condition that it adds looks at none of them, and so does the selection after a run of such calls
(`Selection.avoids_of_callAll?`).

What a filter map names are the columns at the ends of its paths and the fields of the search term.
If no secret column is among them, all calls of the map avoid secret columns, whatever its operators
and arguments are (`Filter.Options.avoids_of_mem_calls`).
-/

namespace Winnow

variable {schema : Schema} {secret : Model → List String} {m : Model}

/-! ## Calls -/

namespace Call

mutual

/-- Does the call name no secret column, and follow no relation that one carries? -/
def Avoids (schema : Schema) (secret : Model → List String) (m : Model) : Call → Prop
  | equals column _ => column ∉ secret m
  | notEquals column _ => column ∉ secret m
  | compare column _ _ => column ∉ secret m
  | among column _ => column ∉ secret m
  | notAmong column _ => column ∉ secret m
  | like column _ _ => column ∉ secret m
  | isNull column => column ∉ secret m
  | notNull column => column ∉ secret m
  | between column _ _ => column ∉ secret m
  | documentHas column _ _ => column ∉ secret m
  | any calls => AllAvoid schema secret m calls
  | has name calls => ∀ rel target, m.relation? name = some rel →
    schema.model? rel.target = some target →
      rel.Avoids secret m target ∧ AllAvoid schema secret target calls
  | orderBy column _ => column ∉ secret m
  | limit _ => True
  | fail _ => True

/-- Do all the calls name no secret column? -/
def AllAvoid (schema : Schema) (secret : Model → List String) (m : Model) : List Call → Prop
  | [] => True
  | c :: cs => Avoids schema secret m c ∧ AllAvoid schema secret m cs

end

theorem allAvoid_iff {calls : List Call} :
    AllAvoid schema secret m calls ↔ ∀ c ∈ calls, c.Avoids schema secret m := by
  induction calls with
  | nil => simp [AllAvoid]
  | cons c cs ih => simp [AllAvoid, ih]

end Call

namespace Condition

variable {dialect : String} {call : Call} {calls : List Call} {c : Column} {condition : Condition}

theorem column_name {name : String} (h : column m name = .ok c) : c.name = name := by
  unfold column at h
  split at h
  · rename_i hColumn
    exact Except.ok.inj h ▸ Model.column?_name hColumn
  · cases h

theorem column_not_mem {name : String} {names : List String} (h : column m name = .ok c)
    (hName : name ∉ names) : c.name ∉ names := by
  rw [column_name h]
  exact hName

theorem avoids_ofEquality (hColumn : c.name ∉ secret m) (negated : Bool) (v : Value) :
    (ofEquality c negated v).Avoids schema secret m := by
  cases v with
  | null => cases negated <;> exact hColumn
  | _ => exact hColumn

theorem avoids_of_ofOrder {comparison : Comparison} {v : Value} (hColumn : c.name ∉ secret m)
    (h : ofOrder c comparison v = .ok condition) : condition.Avoids schema secret m := by
  cases v with
  | null => cases h
  | bool => cases h
  | _ => exact Except.ok.inj h ▸ hColumn

/-- The conditions of calls avoid secret columns if each of them does. -/
theorem allAvoid_of_ofCalls {conditions : List Condition}
    (h : ofCalls schema dialect m calls = .ok conditions)
    (hCalls : ∀ call ∈ calls, ∀ {condition : Condition},
      ofCall? schema dialect m call = .ok (some condition) → condition.Avoids schema secret m) :
    AllAvoid schema secret m conditions := by
  rw [allAvoid_iff]
  intro d hd
  obtain ⟨call, hMem, hCall⟩ := (mem_ofCalls_iff h d).mp hd
  exact hCalls call hMem hCall

/-- What a single call adds looks at its column only. -/
theorem avoids_of_isLeaf (hLeaf : call.isLeaf = true) (hAvoids : call.Avoids schema secret m)
    (h : ofCall? schema dialect m call = .ok (some condition)) :
    condition.Avoids schema secret m := by
  cases adds_of_ofCall? h with
  | any | has => cases hLeaf
  | equals hColumn => exact avoids_ofEquality (column_not_mem hColumn hAvoids) _ _
  | notEquals hColumn => exact avoids_ofEquality (column_not_mem hColumn hAvoids) _ _
  | compare hColumn _ _ hOrdered => exact avoids_of_ofOrder (column_not_mem hColumn hAvoids) hOrdered
  | among hColumn => exact column_not_mem hColumn hAvoids
  | notAmong hColumn => exact column_not_mem hColumn hAvoids
  | like hColumn => exact column_not_mem hColumn hAvoids
  | isNull hColumn => exact column_not_mem hColumn hAvoids
  | notNull hColumn => exact column_not_mem hColumn hAvoids
  | between hColumn => exact column_not_mem hColumn hAvoids
  | documentHas hColumn => exact column_not_mem hColumn hAvoids

/-- **The condition of a call that avoids secret columns** avoids them. -/
theorem avoids_of_ofCall? : ∀ (call : Call) (m : Model), call.Avoids schema secret m →
    ∀ {condition : Condition}, ofCall? schema dialect m call = .ok (some condition) →
      condition.Avoids schema secret m
  | .any calls, m, hAvoids, condition, h => by
    rw [Call.Avoids, Call.allAvoid_iff] at hAvoids
    cases adds_of_ofCall? h with
    | any hConditions =>
      exact allAvoid_of_ofCalls hConditions fun call hMem => avoids_of_ofCall? call m (hAvoids call hMem)
  | .has name calls, m, hAvoids, condition, h => by
    rw [Call.Avoids] at hAvoids
    cases adds_of_ofCall? h with
    | has hRelation hTarget hConditions =>
      obtain ⟨hRel, hCalls⟩ := hAvoids _ _ hRelation hTarget
      rw [Call.allAvoid_iff] at hCalls
      exact ⟨List.mem_of_find?_eq_some hTarget, hRel, allAvoid_of_ofCalls hConditions
        fun call hMem => avoids_of_ofCall? call _ (hCalls call hMem)⟩
  | .equals .., _, hAvoids, _, h => avoids_of_isLeaf rfl hAvoids h
  | .notEquals .., _, hAvoids, _, h => avoids_of_isLeaf rfl hAvoids h
  | .compare .., _, hAvoids, _, h => avoids_of_isLeaf rfl hAvoids h
  | .among .., _, hAvoids, _, h => avoids_of_isLeaf rfl hAvoids h
  | .notAmong .., _, hAvoids, _, h => avoids_of_isLeaf rfl hAvoids h
  | .like .., _, hAvoids, _, h => avoids_of_isLeaf rfl hAvoids h
  | .isNull _, _, hAvoids, _, h => avoids_of_isLeaf rfl hAvoids h
  | .notNull _, _, hAvoids, _, h => avoids_of_isLeaf rfl hAvoids h
  | .between .., _, hAvoids, _, h => avoids_of_isLeaf rfl hAvoids h
  | .documentHas .., _, hAvoids, _, h => avoids_of_isLeaf rfl hAvoids h
  | .orderBy .., _, hAvoids, _, h => avoids_of_isLeaf rfl hAvoids h
  | .limit _, _, hAvoids, _, h => avoids_of_isLeaf rfl hAvoids h
  | .fail _, _, hAvoids, _, h => avoids_of_isLeaf rfl hAvoids h

end Condition

namespace Selection

variable {s s' : Selection} {calls : List Call}

theorem avoids_ofModel {dialect : String} (h : m ∈ schema) :
    (ofModel m dialect).Avoids schema secret :=
  ⟨h, fun _ hMem => absurd hMem List.not_mem_nil, fun _ hMem => absurd hMem List.not_mem_nil⟩

/-- One call that avoids secret columns leaves a selection that does. -/
theorem avoids_of_call {c : Call} (hAvoids : s.Avoids schema secret)
    (hCall : c.Avoids schema secret s.model) (h : s.call schema c = .ok s') :
    s'.Avoids schema secret := by
  rcases call_cases h with ⟨n, rfl, rfl⟩ | ⟨name, direction, column, rfl, hColumn, -, rfl⟩ |
    ⟨-, added, hAdded, -, rfl⟩
  · exact ⟨hAvoids.model, hAvoids.conditions, hAvoids.order⟩
  · refine ⟨hAvoids.model, hAvoids.conditions, ?_⟩
    refine List.forall_mem_append.mpr ⟨hAvoids.order, List.forall_mem_singleton.mpr ?_⟩
    exact Condition.column_not_mem hColumn hCall
  · refine ⟨hAvoids.model, ?_, hAvoids.order⟩
    refine List.forall_mem_append.mpr ⟨hAvoids.conditions, ?_⟩
    intro condition hMem
    obtain rfl := Option.mem_toList.mp hMem
    exact Condition.avoids_of_ofCall? c s.model hCall hAdded

/-- **A run of calls that avoid secret columns** leaves a selection that does. -/
theorem avoids_of_callAll? (hAvoids : s.Avoids schema secret)
    (hCalls : ∀ c ∈ calls, c.Avoids schema secret s.model)
    (h : s.callAll? schema calls = .ok s') : s'.Avoids schema secret := by
  induction calls generalizing s with
  | nil => exact Except.ok.inj h ▸ hAvoids
  | cons c calls ih =>
    obtain ⟨t, hCall, hRest⟩ := callAll?_cons_eq_ok_iff.mp h
    obtain ⟨hHead, hTail⟩ := List.forall_mem_cons.mp hCalls
    exact ih (avoids_of_call hAvoids hHead hCall) (model_of_call hCall ▸ hTail) hRest

end Selection

/-! ## Paths -/

/-- Does a path from a model, along names of relations to a column, neither end at a secret column
nor follow a relation that one carries? -/
def Schema.PathAvoids (schema : Schema) (secret : Model → List String) :
    Model → List String → String → Prop
  | m, [], column => column ∉ secret m
  | m, name :: names, column => ∀ rel target, m.relation? name = some rel →
    schema.model? rel.target = some target →
      rel.Avoids secret m target ∧ PathAvoids schema secret target names column

namespace Filter

variable {dialect column : String}

/-- Whatever an operator asks of a column, it names no other. -/
theorem avoids_of_mem_leafCalls {op : Operator} {v : Value} (hColumn : column ∉ secret m) :
    ∀ call ∈ leafCalls dialect column op v, call.Avoids schema secret m := by
  intro call h
  cases leafCall_of_mem h with
  | orNull => exact ⟨hColumn, hColumn, trivial⟩
  | documents =>
    rw [Call.Avoids, Call.allAvoid_iff]
    intro search hSearch
    obtain ⟨item, -, rfl⟩ := List.mem_map.mp hSearch
    exact hColumn
  | fail => trivial
  | _ => exact hColumn

theorem avoids_of_mem_scopedCalls {op : Operator} {v : Value} {names : List String}
    (hPath : schema.PathAvoids secret m names column) :
    ∀ call ∈ scopedCalls dialect column op v names, call.Avoids schema secret m := by
  induction names generalizing m with
  | nil => exact avoids_of_mem_leafCalls hPath
  | cons name names ih =>
    intro call h
    rw [List.mem_singleton.mp h, Call.Avoids]
    intro rel target hRelation hTarget
    obtain ⟨hRel, hRest⟩ := hPath rel target hRelation hTarget
    exact ⟨hRel, Call.allAvoid_iff.mpr (ih hRest)⟩

theorem avoids_of_mem_entryCalls {externalId : String} {key v : Value}
    (hPath : ∀ path, FieldPath.read externalId key = .ok path →
      schema.PathAvoids secret m path.relations path.column) :
    ∀ call ∈ entryCalls dialect externalId key v, call.Avoids schema secret m := by
  intro call h
  rcases entryCalls_cases h with ⟨e, -, rfl⟩ | ⟨path, p, op, hRead, -, hCall⟩
  · trivial
  · exact avoids_of_mem_scopedCalls (hPath path hRead) call hCall

namespace Options

variable {o : Options}

theorem avoids_of_mem_termCalls {v : Value}
    (hFields : ∀ fields, o.termFields.iterated? = some fields →
      ∀ f ∈ fields, f.snakeCase ∉ secret m) :
    ∀ call ∈ o.termCalls dialect v, call.Avoids schema secret m := by
  intro call h
  rcases termCalls_cases h with ⟨fields, hIterated, rfl⟩ | ⟨-, rfl⟩
  · rw [Call.Avoids, Call.allAvoid_iff]
    intro like hLike
    obtain ⟨name, hName, rfl⟩ := List.mem_map.mp hLike
    obtain ⟨f, hField, rfl⟩ := List.mem_map.mp hName
    exact hFields fields hIterated f hField
  · trivial

/-- Do the paths of a filter map and the declared fields of the search term name no secret column?
The map is the one that is read, after the edits. -/
structure Avoids (o : Options) (schema : Schema) (secret : Model → List String) (m : Model)
    (filters : Value) : Prop where
  paths : ∀ entries, o.entries filters = .ok entries → ∀ e ∈ entries, ¬ o.IsTerm e →
    ∀ path, FieldPath.read o.externalId e.1 = .ok path →
      schema.PathAvoids secret m path.relations path.column
  fields : ∀ fields, o.termFields.iterated? = some fields → ∀ f ∈ fields, f.snakeCase ∉ secret m

/-- **A filter map that names no secret column** makes calls that avoid them. -/
theorem avoids_of_mem_calls {queryDialect : String} {filters : Value}
    (hAvoids : o.Avoids schema secret m filters) :
    ∀ call ∈ o.calls queryDialect filters, call.Avoids schema secret m := by
  intro call h
  unfold calls at h
  split at h
  · rw [List.mem_singleton.mp h]
    trivial
  · rename_i entries hEntries
    rcases mem_entryCalls_iff_term_or_field.mp h with ⟨v, -, hCall⟩ | ⟨e, hMem, hField, hCall⟩
    · exact avoids_of_mem_termCalls hAvoids.fields call hCall
    · exact avoids_of_mem_entryCalls (hAvoids.paths entries hEntries e hMem hField) call hCall

end Options

end Filter

end Winnow
