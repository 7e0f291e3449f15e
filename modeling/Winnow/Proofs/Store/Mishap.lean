import Winnow.Proofs.Store.Answer
import Winnow.Proofs.Store.Argument
import Mathlib.Data.List.Basic

/-!
# Winnow.Proofs.Store.Mishap — what goes wrong with the arguments of a request

A column may make a value of an argument that the store does not take, and nothing then tells the one
who wrote the request. These are the *mishaps*: an integer that does not fit into 64 bits, a
signalling decimal, a list or a mapping that a column has taken as it is, a text search in a column
of identifiers. Which of them a condition has is read off its values (`Condition.mishaps`), and they
are what the store refuses (`Condition.refusals_bindings`).

Rows go wrong in two ways only (`Condition.Stumbles`): a pattern is too long, or the text of a cell
is searched as a document and either it or the path is not well formed.

Main statement: a selection that filters have made fails for such a cause, or because its statement
is too large, and never in a way that is told (`Selection.IsAsked.yields_count`,
`Selection.IsAsked.yields_all`).
-/

namespace Winnow

/-! ## Parameters that are refused -/

/-- Why the store refuses a list or a mapping that a column has taken as it is. -/
def ColumnKind.containerMishap? : ColumnKind → Option Error
  | enumeration => some .unbindable
  | other => some .unsupported
  | _ => none

/-- Why the store refuses what a column has made of an argument, if it does: an integer does not fit
into 64 bits, a decimal is a signalling one, or the column has taken a list or a mapping as it is. -/
def Value.mishap? (kind : ColumnKind) : Value → Option Error
  | int n => if Stored.fits n then none else some .overflow
  | decimal (.nan _ signalling _) => if signalling then some .unbindable else none
  | list _ => kind.containerMishap?
  | mapping _ => kind.containerMishap?
  | _ => none

/-- The type that what a column makes of texts has on its way to the store. -/
def ColumnKind.boundKind : ColumnKind → ColumnKind
  | document => text
  | other => text
  | kind => kind

namespace Condition

variable {c : Column} {kind : ColumnKind} {v : Value} {vs : List Value}

/-- The refusal of a parameter, if it is refused. -/
def Binding.refusal? : Binding → Option Error
  | .error e => some e
  | .ok _ => none

theorem refusals_eq (bs : List Binding) : refusals bs = bs.filterMap Binding.refusal? := rfl

theorem refusals_map {α : Type} (bind : α → Binding) (vs : List α) :
    refusals (vs.map bind) = vs.filterMap fun v => (bind v).refusal? := by
  rw [refusals_eq, List.filterMap_map]
  rfl

theorem comparedKind_of_makes (h : kind.Makes v) : v.comparedKind kind = kind.boundKind := by
  cases h with
  | asItIs hOpen s =>
    cases kind with
    | document | enumeration | other => rfl
    | _ => cases hOpen
  | _ => rfl

theorem refusal?_bind (h : kind.Makes v) :
    Binding.refusal? (v.bind kind.boundKind) = v.mishap? kind := by
  cases h with
  | boolean b => cases b <;> rfl
  | integer n =>
    show Binding.refusal? (if Stored.fits n then .ok (.int n) else .error .overflow) =
      if Stored.fits n then none else some .overflow
    split <;> rfl
  | decimal d =>
    cases d with
    | nan negative signalling payload => cases signalling <;> rfl
    | _ => rfl
  | asItIs hOpen s =>
    cases kind with
    | document | enumeration | other => rfl
    | _ => cases hOpen
  | _ => rfl

/-- A list or a mapping is a parameter of the column's own type. -/
theorem refusal?_container (hArgument : v.IsArgument) (hOpen : kind.isOpen = true)
    (hOwn : v.ownKind? = none) (hMember : v.bind .enumeration = .error .unbindable)
    (hOther : v.bind .other = .error .unsupported) :
    (binding kind v).refusal? = kind.containerMishap? := by
  have hKind : v.comparedKind kind = kind := by rw [Value.comparedKind, hOwn]
  rw [binding, hKind]
  cases kind with
  | document =>
    -- a document can be made of every argument
    obtain ⟨j, hJson⟩ := hArgument.exists_toJson?
    rw [Value.bind, Value.bindDocument, hJson]
    rfl
  | enumeration => rw [hMember]; rfl
  | other => rw [hOther]; rfl
  | _ => cases hOpen

/-- **A parameter is refused for its mishap**, and if it has none it is taken. -/
theorem refusal?_binding (h : kind.MakesOfArgument v) :
    (binding kind v).refusal? = v.mishap? kind := by
  rcases h with h | ⟨hOpen, hArgument⟩
  · rw [binding, comparedKind_of_makes h]
    exact refusal?_bind h
  · cases hArgument with
    | text s =>
      rw [binding, comparedKind_of_makes (.asItIs hOpen s)]
      exact refusal?_bind (.asItIs hOpen s)
    | list hItems => exact refusal?_container (.list hItems) hOpen (by rfl) (by rfl) (by rfl)
    | mapping hKeys hValues =>
      exact refusal?_container (.mapping hKeys hValues) hOpen (by rfl) (by rfl) (by rfl)

/-- The parameters of a list are refused one by one. -/
theorem refusals_listBindings (h : ∀ v ∈ vs, c.kind.Makes v) :
    refusals (listBindings c vs) = vs.filterMap (·.mishap? c.kind) := by
  have hBound : listBindings c vs = vs.map (·.bind c.kind.boundKind) := by
    cases vs with
    | nil => rfl
    | cons v vs =>
      rw [listBindings, Value.listKind, comparedKind_of_makes (h v List.mem_cons_self)]
  rw [hBound, refusals_map]
  exact List.filterMap_congr fun v hv => refusal?_bind (h v hv)

/-! ## Mishaps of conditions -/

mutual

/-- Why the store refuses parameters of the condition, in their order. -/
def mishaps : Condition → List Error
  | compare c _ v => (v.mishap? c.kind).toList
  | among c vs => vs.filterMap (·.mishap? c.kind)
  | notAmong c vs => vs.filterMap (·.mishap? c.kind)
  | like c _ _ => if c.kind = .uuid then [.unbindable] else []
  | between c lower upper => [lower, upper].filterMap (·.mishap? c.kind)
  | any conditions => allMishaps conditions
  | has _ _ conditions => allMishaps conditions
  | _ => []

/-- Why the store refuses parameters of the conditions. -/
def allMishaps : List Condition → List Error
  | [] => []
  | c :: cs => mishaps c ++ allMishaps cs

end

theorem mem_allMishaps_iff {conditions : List Condition} {e : Error} :
    e ∈ allMishaps conditions ↔ ∃ c ∈ conditions, e ∈ c.mishaps := by
  induction conditions with
  | nil => simp [allMishaps]
  | cons c cs ih => simp [allMishaps, ih]

/-- The parameters of conditions are refused condition by condition. -/
theorem refusals_allBindings {conditions : List Condition}
    (h : ∀ c ∈ conditions, refusals (bindings c) = c.mishaps) :
    refusals (allBindings conditions) = allMishaps conditions := by
  induction conditions with
  | nil => rfl
  | cons c cs ih =>
    obtain ⟨hHead, hTail⟩ := List.forall_mem_cons.mp h
    rw [allBindings, allMishaps, refusals_append, hHead, ih hTail]

/-- **What the store refuses of a condition are its mishaps.** -/
theorem refusals_bindings : ∀ c : Condition, c.IsAsked → refusals (bindings c) = c.mishaps
  | .compare c _ v, h => by
    rw [bindings, mishaps, refusals_eq, List.filterMap_cons, refusal?_binding h]
    cases v.mishap? c.kind <;> rfl
  | .among _ _, h => by rw [bindings, mishaps, refusals_listBindings h]
  | .notAmong _ _, h => by rw [bindings, mishaps, refusals_listBindings h]
  | .like c _ _, _ => by
    rw [bindings, mishaps]
    split <;> rfl
  | .between c lower upper, h => by
    show refusals ([lower, upper].map (binding c.kind)) = [lower, upper].filterMap (·.mishap? c.kind)
    rw [refusals_map]
    apply List.filterMap_congr
    intro v hv
    apply refusal?_binding
    rcases List.mem_pair.mp hv with rfl | rfl
    · exact Or.inl h.1
    · exact Or.inl h.2
  | .documentHas _ _ _ _, h => by
    obtain ⟨rfl, s, rfl⟩ := h
    rfl
  | .any conditions, h => by
    rw [IsAsked, allAsked_iff] at h
    rw [bindings, mishaps]
    exact refusals_allBindings fun c hc => refusals_bindings c (h c hc)
  | .has _ _ conditions, h => by
    rw [IsAsked, allAsked_iff] at h
    rw [bindings, mishaps]
    exact refusals_allBindings fun c hc => refusals_bindings c (h c hc)
  | .isNull _, _ => rfl
  | .notNull _, _ => rfl
  | .flag .., _ => rfl

/-! ### Nobody is told of a mishap -/

theorem not_told_of_mishap? {e : Error} (h : v.mishap? kind = some e) : ¬ IsTold e := by
  have hContainer : kind.containerMishap? = some e → ¬ IsTold e := by
    cases kind <;> rintro ⟨⟩ <;> decide
  cases v with
  | int n =>
    simp only [Value.mishap?] at h
    split at h
    · cases h
    · obtain rfl := Option.some.inj h
      decide
  | decimal d =>
    cases d with
    | nan negative signalling payload =>
      simp only [Value.mishap?] at h
      split at h
      · obtain rfl := Option.some.inj h
        decide
      · cases h
    | _ => cases h
  | list => exact hContainer h
  | mapping => exact hContainer h
  | _ => cases h

theorem not_told_of_mem_filterMap {e : Error} (h : e ∈ vs.filterMap (·.mishap? kind)) :
    ¬ IsTold e := by
  obtain ⟨v, -, hMishap⟩ := List.mem_filterMap.mp h
  exact not_told_of_mishap? hMishap

theorem not_told_of_mem_mishaps {e : Error} : ∀ c : Condition, e ∈ c.mishaps → ¬ IsTold e
  | .compare _ _ _, h => not_told_of_mishap? (Option.mem_toList.mp h)
  | .among _ _, h => not_told_of_mem_filterMap h
  | .notAmong _ _, h => not_told_of_mem_filterMap h
  | .between _ _ _, h => not_told_of_mem_filterMap h
  | .like _ _ _, h => by
    rw [mishaps] at h
    split at h
    · obtain rfl := List.mem_singleton.mp h
      decide
    · exact absurd h List.not_mem_nil
  | .any conditions, h => by
    rw [mishaps, mem_allMishaps_iff] at h
    obtain ⟨c, hMem, hMishap⟩ := h
    exact not_told_of_mem_mishaps c hMishap
  | .has _ _ conditions, h => by
    rw [mishaps, mem_allMishaps_iff] at h
    obtain ⟨c, hMem, hMishap⟩ := h
    exact not_told_of_mem_mishaps c hMishap
  | .isNull _, h => absurd h List.not_mem_nil
  | .notNull _, h => absurd h List.not_mem_nil
  | .flag .., h => absurd h List.not_mem_nil
  | .documentHas .., h => absurd h List.not_mem_nil

/-! ## Rows that go wrong -/

/-- Can a row of the model's table go wrong with this error, when the condition is tested on it? -/
inductive Stumbles (db : Database) : Model → Condition → Error → Prop
  | like {m : Model} {c : Column} {pattern : String} {foldCase : Bool}
      (h : Like.isTooLong pattern = true) : Stumbles db m (.like c pattern foldCase) .patternTooLong
  | documentHas {m : Model} {c : Column} {form : DocumentForm} {key : String} {v : Value} {r : Row}
      {e : Error} (hRow : r ∈ db.rows m) (h : (r.cell c.name).lookup key = .error e) :
      Stumbles db m (.documentHas c form key v) e
  | any {m : Model} {conditions : List Condition} {c : Condition} {e : Error}
      (hMem : c ∈ conditions) (h : Stumbles db m c e) : Stumbles db m (.any conditions) e
  | has {m target : Model} {rel : Relation} {conditions : List Condition} {c : Condition}
      {e : Error} (hMem : c ∈ conditions) (h : Stumbles db target c e) :
      Stumbles db m (.has rel target conditions) e

theorem not_told_of_lookup {cell : Cell} {key : String} {e : Error}
    (h : cell.lookup key = .error e) : ¬ IsTold e := by
  unfold Cell.lookup at h
  dsimp only at h
  repeat' split at h
  all_goals
    cases h
    try decide

/-- Nobody is told of a row that goes wrong. -/
theorem Stumbles.not_told {db : Database} {m : Model} {c : Condition} {e : Error}
    (h : Stumbles db m c e) : ¬ IsTold e := by
  induction h with
  | like => decide
  | documentHas _ hLookup => exact not_told_of_lookup hLookup
  | any _ _ ih => exact ih
  | has _ _ ih => exact ih

/-- **Where a row goes wrong**, a condition stumbles. -/
theorem stumbles_of_fault? {db : Database} {e : Error} : ∀ (c : Condition) (m : Model) {r : Row},
    r ∈ db.rows m → fault? db m c r = some e → Stumbles db m c e
  | .like c pattern foldCase, m, r, _, h => by
    rw [fault?] at h
    split at h
    · rename_i hLong
      cases h
      exact .like hLong
    · cases h
  | .documentHas c form key v, m, r, hRow, h => by
    rw [fault?] at h
    split at h
    · rename_i hLookup
      cases h
      exact .documentHas hRow hLookup
    · cases h
  | .any conditions, m, r, hRow, h => by
    rw [fault?] at h
    -- whichever test fails first is that of one of the conditions
    obtain ⟨t, ht, hFault⟩ := Test.exists_of_firstFault? h
    obtain ⟨c, hMem, hTest⟩ := exists_of_mem_tests ht
    rw [hTest] at hFault
    exact .any hMem (stumbles_of_fault? c m hRow hFault)
  | .has rel target conditions, m, r, hRow, h => by
    rw [fault?] at h
    obtain ⟨x, hRelated, hFault⟩ := Test.exists_of_rowsFault? h
    obtain ⟨t, ht, hFault⟩ := Test.exists_of_allFault? hFault
    obtain ⟨c, hMem, hTest⟩ := exists_of_mem_tests ht
    rw [hTest] at hFault
    exact .has hMem (stumbles_of_fault? c target (List.mem_of_mem_filter hRelated) hFault)
  | .isNull _, _, _, _, h => by cases h
  | .notNull _, _, _, _, h => by cases h
  | .flag .., _, _, _, h => by cases h
  | .compare .., _, _, _, h => by cases h
  | .among .., _, _, _, h => by cases h
  | .notAmong .., _, _, _, h => by cases h
  | .between .., _, _, _, h => by cases h

end Condition

/-! ## Selections -/

namespace Selection

variable {db : Database} {s : Selection} {q : Query} {e : Error}

/-- Why the store refuses parameters of the selection. -/
def mishaps (s : Selection) : List Error := Condition.allMishaps s.conditions

/-- Can a query of the selection fail with this error? A parameter is refused, the statement is too
large, or a row goes wrong. -/
inductive Fails (db : Database) (s : Selection) (q : Query) : Error → Prop
  | parameter {e : Error} (h : e ∈ s.mishaps) : Fails db s q e
  | statement (h : s.isReadable q = false) : Fails db s q .tooLarge
  | row {c : Condition} {e : Error} (hMem : c ∈ s.conditions) (h : c.Stumbles db s.model e) :
      Fails db s q e

/-- Nobody is told why. -/
theorem Fails.not_told (h : s.Fails db q e) : ¬ IsTold e := by
  cases h with
  | parameter h =>
    obtain ⟨c, -, hMishap⟩ := Condition.mem_allMishaps_iff.mp h
    exact Condition.not_told_of_mem_mishaps c hMishap
  | statement => decide
  | row _ h => exact h.not_told

theorem IsAsked.refusals_eq (h : s.IsAsked) : s.refusals = s.mishaps := by
  apply Condition.refusals_allBindings
  intro c hc
  exact Condition.refusals_bindings c (Condition.allAsked_iff.mp h.conditions c hc)

/-- A query without parameters of its own is refused for its conditions or for its size. -/
theorem fails_of_refusal? (hSelection : s.IsAsked) (hQuery : q.capParameters = [])
    (h : s.refusal? q = some e) : s.Fails db q e := by
  have hErrors : Condition.refusals (Condition.allBindings s.conditions ++
      q.capParameters.map fun n => (Value.int n).bindPlain) = s.mishaps := by
    rw [hQuery, List.map_nil, List.append_nil]
    exact hSelection.refusals_eq
  rw [refusal?] at h
  simp only [hErrors] at h
  split at h
  · rename_i hMem
    obtain rfl := Option.some.inj h
    exact .parameter (List.contains_iff_mem.mp hMem)
  split at h
  · rename_i hMem
    obtain rfl := Option.some.inj h
    exact .parameter (List.contains_iff_mem.mp hMem)
  split at h
  · exact .parameter (List.mem_of_head? h)
  · rename_i hReadable
    obtain rfl := Option.some.inj h
    exact .statement (Bool.not_eq_true _ ▸ hReadable)

theorem fails_of_fault? (h : s.fault? db q = some e) : s.Fails db q e := by
  have hRows {need? : Option Nat} {rows : List Row} (hSub : ∀ r ∈ rows, r ∈ db.rows s.model)
      (hFault : Condition.Test.rowsFault? (Condition.tests db s.model s.conditions) need? rows =
        some e) : s.Fails db q e := by
    obtain ⟨r, hRow, hFault⟩ := Condition.Test.exists_of_rowsFault? hFault
    obtain ⟨t, ht, hFault⟩ := Condition.Test.exists_of_allFault? hFault
    obtain ⟨c, hMem, hTest⟩ := Condition.exists_of_mem_tests ht
    rw [hTest] at hFault
    exact .row hMem (Condition.stumbles_of_fault? c s.model (hSub r hRow) hFault)
  unfold fault? at h
  dsimp only at h
  split at h
  · cases h
  · split at h
    · exact hRows (fun r hr => List.mem_mergeSort.mp hr) h
    · exact hRows (fun r hr => hr) h

theorem IsAsked.yields_check (hSelection : s.IsAsked) (hQuery : q.capParameters = []) :
    Yields (s.Fails db q) (fun _ => s.mishaps = [] ∧ s.isReadable q = true) (s.check db q) := by
  rw [check]
  cases hRefusal : s.refusal? q with
  | some e => exact .error (fails_of_refusal? hSelection hQuery hRefusal)
  | none =>
    cases hFault : s.fault? db q with
    | some e => exact .error (fails_of_fault? hFault)
    | none => exact .ok (hSelection.refusals_eq ▸ refusals_of_refusal? hRefusal)

/-- **The number of rows** is told, or the query fails for one of the causes. -/
theorem IsAsked.yields_count (db : Database) (hSelection : s.IsAsked) :
    Yields (s.Fails db .count) (fun _ => s.mishaps = [] ∧ s.isReadable .count = true)
      (s.count db) :=
  (hSelection.yields_check rfl).bind fun _ h => .ok h

/-- **All rows** are shown, or the query fails for one of the causes. -/
theorem IsAsked.yields_all (db : Database) (hSelection : s.IsAsked) :
    Yields (s.Fails db .rows) (fun _ => s.mishaps = [] ∧ s.isReadable .rows = true)
      (s.all db) := by
  rw [all, hSelection.cap]
  exact (hSelection.yields_check rfl).bind fun _ h => .ok h

end Selection

end Winnow
