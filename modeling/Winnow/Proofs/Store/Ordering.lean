import Winnow.Proofs.Store.Gathering
import Winnow.Query.Sort

/-!
# Winnow.Proofs.Store.Ordering — what one call does, and what orders leave

A call that is not refused does one of three things (`Selection.call_cases`): it sets the cap, it
adds one key to the order, or it adds the condition that it has. The last two need a selection
without a cap. So no call changes the model, and a run of orders changes nothing but the order:
neither which rows are selected nor how many.
-/

namespace Winnow.Selection

variable {schema : Schema} {s s' : Selection} {calls : List Call}

/-- What grows without a cap grows, and nothing else does. -/
theorem uncapped_map_eq_ok_iff {f : Selection → Selection} :
    s.uncapped.map f = .ok s' ↔ s.cap = none ∧ s' = f s := by
  rw [uncapped]
  cases s.cap with
  | none => simp [Except.map, eq_comm]
  | some cap => simp [Except.map]

/-- **One call.** -/
theorem call_cases {c : Call} (h : s.call schema c = .ok s') :
    (∃ n, c = .limit n ∧ s' = { s with cap := some n }) ∨
    (∃ name direction column, c = .orderBy name direction ∧
      Condition.column s.model name = .ok column ∧ s.cap = none ∧
      s' = { s with order := s.order ++ [⟨column.name, Call.isDescending direction⟩] }) ∨
    (c.isFilter = true ∧ ∃ added, Condition.ofCall? schema s.dialect s.model c = .ok added ∧
      (added ≠ none → s.cap = none) ∧ s' = s.gather added.toList) := by
  by_cases hFilter : c.isFilter = true
  · rw [call_eq_elim hFilter] at h
    obtain ⟨added, hAdded, h⟩ := bind_eq_ok_iff.mp h
    refine Or.inr (Or.inr ⟨hFilter, added, hAdded, ?_⟩)
    cases added with
    | none =>
      obtain rfl : s = s' := Except.ok.inj h
      exact ⟨fun hNone => absurd rfl hNone, (gather_nil s).symm⟩
    | some condition =>
      obtain ⟨hCap, rfl⟩ := uncapped_map_eq_ok_iff.mp h
      exact ⟨fun _ => hCap, rfl⟩
  · cases c with
    | limit n => exact Or.inl ⟨n, rfl, (Except.ok.inj h).symm⟩
    | orderBy name direction =>
      obtain ⟨column, hColumn, h⟩ := bind_eq_ok_iff.mp h
      obtain ⟨hCap, rfl⟩ := uncapped_map_eq_ok_iff.mp h
      exact Or.inr (Or.inl ⟨name, direction, column, rfl, hColumn, hCap, rfl⟩)
    | _ => exact absurd rfl hFilter

/-- Calls that succeed are calls without an error. -/
theorem callAll?_eq_ok_iff :
    s.callAll? schema calls = .ok s' ↔ s.callAll schema calls = (s', none) := by
  rw [callAll?]
  rcases s.callAll schema calls with ⟨t, _ | e⟩ <;> simp

/-- Calls succeed if each does, one after the other. -/
theorem callAll?_cons_eq_ok_iff {c : Call} :
    s.callAll? schema (c :: calls) = .ok s' ↔
      ∃ t, s.call schema c = .ok t ∧ t.callAll? schema calls = .ok s' := by
  rw [callAll?, callAll]
  cases s.call schema c with
  | error e => simp
  | ok t => simp [callAll?]

/-! ## What no call changes -/

theorem model_of_call {c : Call} (h : s.call schema c = .ok s') : s'.model = s.model := by
  rcases call_cases h with ⟨_, _, rfl⟩ | ⟨_, _, _, _, _, _, rfl⟩ | ⟨_, _, _, _, rfl⟩ <;> rfl

theorem model_of_callAll? (h : s.callAll? schema calls = .ok s') : s'.model = s.model := by
  induction calls generalizing s with
  | nil => rw [Except.ok.inj h]
  | cons c calls ih =>
    obtain ⟨t, hCall, hRest⟩ := callAll?_cons_eq_ok_iff.mp h
    exact (ih hRest).trans (model_of_call hCall)

/-! ## Runs of orders -/

/-- **A run of orders** changes the order alone. -/
theorem exists_order_of_callAll? (hCalls : ∀ c ∈ calls, ∃ name direction, c = .orderBy name direction)
    (h : s.callAll? schema calls = .ok s') : ∃ order, s' = { s with order := order } := by
  induction calls generalizing s with
  | nil => exact ⟨s.order, (Except.ok.inj h).symm⟩
  | cons c calls ih =>
    obtain ⟨⟨name, direction, rfl⟩, hRest⟩ := List.forall_mem_cons.mp hCalls
    obtain ⟨t, hCall, hRun⟩ := callAll?_cons_eq_ok_iff.mp h
    obtain ⟨order, rfl⟩ := ih hRest hRun
    rcases call_cases hCall with ⟨_, hLimit, -⟩ | ⟨_, _, _, _, _, _, rfl⟩ | ⟨hFilter, -⟩
    · cases hLimit
    · exact ⟨order, rfl⟩
    · cases hFilter

theorem sortCalls_are_orders (text : Value) :
    ∀ c ∈ text.sortCalls, ∃ name direction, c = .orderBy name direction := by
  intro c hMem
  obtain ⟨clause, -, rfl⟩ := List.mem_map.mp hMem
  exact ⟨clause.field, clause.direction, rfl⟩

/-- **A sort text does not change which rows are selected.** -/
theorem matching_of_sortCalls {db : Database} {text : Value}
    (h : s.callAll? schema text.sortCalls = .ok s') : s'.matching db = s.matching db := by
  obtain ⟨order, rfl⟩ := exists_order_of_callAll? (sortCalls_are_orders text) h
  rfl

end Winnow.Selection
