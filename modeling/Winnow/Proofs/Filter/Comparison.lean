import Winnow.Proofs.Filter.Blank
import Winnow.Proofs.Store.Place

/-!
# Winnow.Proofs.Filter.Comparison — what the operators that compare ask of a cell

Twelve of the operators ask where a cell stands to their arguments. Each comes to the column on its
own way: an equality trims its argument and an order comparison does not, a list is split and taken
item by item, a period has two bounds, and null is let in by a group. What they ask in the end is
written down in one table (`Column.Passes`), and what they have to know of the column in another
(`operands`).

* `Condition.Says`: conditions ask for a test, and the store takes what they compare with.
* `says_leafCalls`: the calls of such an operator on an ordered column become conditions that ask
  for the test of the table.
* `Options.Selects`: the rows of a filter map of one operator. They are the rows from which a chain
  of related rows leads to one that passes the test (`Selects.mem_iff`).
-/

namespace Winnow

/-! ## Conditions that ask for a test -/

namespace Condition

variable {schema : Schema} {dialect name : String} {m : Model} {c : Column} {v w : Value}
  {test : Row → Prop} {args : List Value}

/-- The conditions hold of the rows that pass the test. If the store takes their parameters, it
takes what the column makes of the arguments. -/
structure Says (c : Column) (conditions : List Condition) (test : Row → Prop)
    (args : List Value) : Prop where
  eval_iff : ∀ db x, (∀ d ∈ conditions, eval db x d = some true) ↔ test x
  takes : refusals (allBindings conditions) = [] → ∀ a ∈ args, c.Takes a

theorem Says.congr {conditions : List Condition} {test' : Row → Prop}
    (h : Says c conditions test args) (hTest : ∀ x, test x ↔ test' x) :
    Says c conditions test' args :=
  ⟨fun db x => (h.eval_iff db x).trans (hTest x), h.takes⟩

theorem says_compare (comparison : Comparison) (hCoerce : c.coerce v = .ok w) :
    Says c [.compare c comparison w] (c.Meets comparison v) [v] where
  eval_iff db x := by
    rw [List.forall_mem_singleton, eval]
    exact compareStored_eq_true_iff hCoerce
  takes hTaken := by
    rw [List.forall_mem_singleton]
    obtain ⟨s, hBinding⟩ := refusals_eq_nil_iff.mp hTaken _ List.mem_cons_self
    exact ⟨w, s, hCoerce, hBinding⟩

theorem says_orNull (comparison : Comparison) (hCoerce : c.coerce v = .ok w) :
    Says c [.any [.isNull c, .compare c comparison w]]
      (fun x => (x.cell c.name).isNull = true ∨ c.Meets comparison v x) [v] where
  eval_iff db x := by
    rw [List.forall_mem_singleton, eval_any_iff, List.exists_mem_cons_iff]
    simp only [List.mem_singleton, exists_eq_left, eval, Option.some.injEq,
      compareStored_eq_true_iff hCoerce]
  takes hTaken := (says_compare comparison hCoerce).takes hTaken

theorem says_between {lower upper w' : Value} (hLower : c.coerce lower = .ok w)
    (hUpper : c.coerce upper = .ok w') :
    Says c [.between c w w']
      (fun x => c.Meets .greaterEqual lower x ∧ c.Meets .lessEqual upper x) [lower, upper] where
  eval_iff db x := by
    have hConjoin (a b : Option Bool) :
        conjoin a b = some true ↔ a = some true ∧ b = some true := by
      rcases a with _ | _ | _ <;> rcases b with _ | _ | _ <;> decide
    rw [List.forall_mem_singleton, eval, hConjoin, compareStored_eq_true_iff hLower,
      compareStored_eq_true_iff hUpper]
  takes hTaken := by
    have hBound := refusals_eq_nil_iff.mp hTaken
    obtain ⟨s, hs⟩ := hBound (binding c.kind w) List.mem_cons_self
    obtain ⟨t, ht⟩ := hBound (binding c.kind w') (List.mem_cons_of_mem _ List.mem_cons_self)
    exact List.forall_mem_cons.mpr ⟨⟨w, s, hLower, hs⟩,
      List.forall_mem_singleton.mpr ⟨w', t, hUpper, ht⟩⟩

section List

variable {vs ws : List Value} (hOrdered : c.kind.isOrdered = true) (hSome : ∀ v ∈ vs, v ≠ .null)
  (hCoerce : c.coerceAll vs = .ok ws)

include hOrdered hSome hCoerce

/-- If the store takes the parameters of a list, it takes the values one by one. -/
theorem takes_of_listBindings (hTaken : refusals (listBindings c ws) = []) :
    ∀ v ∈ vs, c.Takes v := by
  intro v hv
  obtain ⟨w, hw⟩ := exists_of_coerceAll hCoerce v hv
  have hMem : w ∈ ws := (mem_iff_of_coerceAll hCoerce w).mpr ⟨v, hv, hw⟩
  have hOf := isOf_of_mem_coerceAll hOrdered hSome hCoerce
  have hKind : Value.listKind c.kind ws = w.comparedKind c.kind := by
    cases ws with
    | nil => cases hMem
    | cons w' ws =>
      rw [Value.listKind, (hOf w' List.mem_cons_self).comparedKind_eq, (hOf w hMem).comparedKind_eq]
  obtain ⟨s, hs⟩ := refusals_eq_nil_iff.mp hTaken _ (List.mem_map_of_mem hMem)
  rw [hKind] at hs
  exact ⟨w, s, hw, hs⟩

/-- A condition with the parameters of a list asks for what it holds of. -/
theorem says_list {d : Condition} (hBindings : d.bindings = listBindings c ws)
    (hEval : ∀ db x, eval db x d = some true ↔ test x) : Says c [d] test vs where
  eval_iff db x := by
    rw [List.forall_mem_singleton]
    exact hEval db x
  takes hTaken := by
    rw [allBindings, allBindings, hBindings, List.append_nil] at hTaken
    exact takes_of_listBindings hOrdered hSome hCoerce hTaken

end List

end Condition

/-! ## What operators ask of a cell -/

/-- Does the operator ask where a cell stands to its argument? -/
def Operator.compares : Operator → Bool
  | .like | .notNull | .json => false
  | _ => true

/-- Does the operator compare with its argument alone? -/
def Operator.comparesOne : Operator → Bool
  | .equal | .notEqual | .less | .lessEqual | .greater | .greaterEqual => true
  | .greaterOrNull | .lessOrNull => true
  | _ => false

/-- What the operator asks of the cell of a row, if it compares. -/
def Column.Passes (c : Column) (op : Operator) (v : Value) (x : Row) : Prop :=
  match op with
  | .equal => c.Meets .equal v.trimmed x
  | .notEqual => c.Meets .notEqual v.trimmed x
  | .less => c.Meets .less v x
  | .lessEqual => c.Meets .lessEqual v x
  | .greater => c.Meets .greater v x
  | .greaterEqual => c.Meets .greaterEqual v x
  | .greaterOrNull => (x.cell c.name).isNull = true ∨ c.Meets .greater v x
  | .lessOrNull => (x.cell c.name).isNull = true ∨ c.Meets .less v x
  | .among => ∃ a ∈ v.splitList, c.Meets .equal a x
  | .notAmong => ∀ a ∈ v.splitList, c.Meets .notEqual a x
  | .between => ∃ lower upper, Filter.Period.bounds v = .ok (lower, upper) ∧
    c.Meets .greaterEqual (.text lower) x ∧ c.Meets .lessEqual (.text upper) x
  | _ => False

namespace Filter

/-- What an operator compares the cells of a column with. -/
def operands : Operator → Value → List Value
  | .equal, v | .notEqual, v => [v.trimmed]
  | .among, v | .notAmong, v => v.splitList
  | .between, v => match Period.bounds v with
    | .ok (lower, upper) => [.text lower, .text upper]
    | .error _ => []
  | .like, _ | .notNull, _ | .json, _ => []
  | _, v => [v]

theorem compares_of_comparesOne {op : Operator} (h : op.comparesOne = true) :
    op.compares = true := by
  cases op <;> first | rfl | cases h

theorem saysNothing_eq_isBlank {op : Operator} {v : Value} (h : op.comparesOne = true) :
    saysNothing op v = v.isBlank := by
  cases op <;> first | exact Bool.or_false _ | cases h

theorem operands_eq_singleton {op : Operator} {v : Value} (h : op.comparesOne = true)
    (hTrimmed : v.trimmed = v) : operands op v = [v] := by
  cases op <;> first | rfl | exact congrArg (fun a => [a]) hTrimmed | cases h

section Leaf

variable {schema : Schema} {dialect queryDialect name : String} {m : Model} {c : Column}
  {op : Operator} {v : Value} {conditions : List Condition}

theorem ne_null_of_not_isBlank (h : v.isBlank = false) : v ≠ .null := by
  rintro rfl
  cases h

theorem trimmed_ne_null (h : v ≠ .null) : v.trimmed ≠ .null := by
  unfold Value.trimmed
  split
  · exact nofun
  · exact h

theorem ne_null_of_mem_splitList {a : Value} (h : a ∈ v.splitList) : a ≠ .null := by
  have hSome := (List.mem_filter.mp h).2
  exact ne_null_of_not_isBlank (by simpa using hSome)

theorem splitList_ne_nil (hList : op = .among ∨ op = .notAmong) (hSays : saysNothing op v = false) :
    v.splitList ≠ [] := by
  intro hNone
  rcases hList with rfl | rfl <;> simp [saysNothing, consistsOfBlanks, hNone] at hSays

theorem leafCalls_list {call : String → List Value → Call}
    (hList : (op = .among ∧ call = .among) ∨ (op = .notAmong ∧ call = .notAmong))
    (h : v.splitList ≠ []) : leafCalls dialect name op v = [call name v.splitList] := by
  obtain ⟨a, items, hItems⟩ := List.exists_cons_of_ne_nil h
  rcases hList with ⟨rfl, rfl⟩ | ⟨rfl, rfl⟩ <;> simp only [leafCalls, hItems]

theorem ofCalls_singleton_eq_ok_iff {call : Call} :
    Condition.ofCalls schema queryDialect m [call] = .ok conditions ↔
      ∃ added, Condition.ofCall? schema queryDialect m call = .ok added ∧
        conditions = added.toList := by
  rw [Condition.ofCalls_cons_eq_ok_iff]
  constructor
  · rintro ⟨added, rest, hAdded, hRest, rfl⟩
    obtain rfl : [] = rest := Except.ok.inj hRest
    exact ⟨added, hAdded, List.append_nil _⟩
  · rintro ⟨added, hAdded, rfl⟩
    exact ⟨added, [], hAdded, rfl, (List.append_nil _).symm⟩

variable (hColumn : Condition.column m name = .ok c)

include hColumn

/-- A call on one column makes its condition of what it takes from that column. -/
theorem exists_of_ofCall? {α : Type} {call : Call} {added : Option Condition}
    (take : Column → Except Error α) (make : Column → α → Condition)
    (hForm : Condition.ofCall? schema queryDialect m call = (do
      let c ← Condition.column m name
      return some (make c (← take c))))
    (h : Condition.ofCall? schema queryDialect m call = .ok added) :
    ∃ a, take c = .ok a ∧ added = some (make c a) := by
  rw [hForm] at h
  obtain ⟨_, hFound, h⟩ := bind_eq_ok_iff.mp h
  obtain rfl := Except.ok.inj (hColumn.symm.trans hFound)
  obtain ⟨a, hTake, h⟩ := bind_eq_ok_iff.mp h
  exact ⟨a, hTake, (Except.ok.inj h).symm⟩

/-- The bounds of a period are compared with, both. -/
theorem says_period
    (h : Condition.ofCalls schema queryDialect m (leafCalls dialect name .between v) =
      .ok conditions) :
    Condition.Says c conditions (c.Passes .between v) (operands .between v) := by
  unfold leafCalls at h
  cases hBounds : Period.bounds v with
  | error e =>
    simp only [hBounds] at h
    obtain ⟨_, hAdded, -⟩ := ofCalls_singleton_eq_ok_iff.mp h
    cases hAdded
  | ok bounds =>
    obtain ⟨lower, upper⟩ := bounds
    simp only [hBounds] at h
    obtain ⟨_, hAdded, rfl⟩ := ofCalls_singleton_eq_ok_iff.mp h
    obtain ⟨_, hFound, hAdded⟩ := bind_eq_ok_iff.mp hAdded
    obtain rfl := Except.ok.inj (hColumn.symm.trans hFound)
    obtain ⟨w, hLower, hAdded⟩ := bind_eq_ok_iff.mp hAdded
    obtain ⟨w', hUpper, hAdded⟩ := bind_eq_ok_iff.mp hAdded
    obtain rfl := Except.ok.inj hAdded
    have hArgs : operands .between v = [.text lower, .text upper] := by
      simp only [operands, hBounds]
    rw [hArgs]
    refine (Condition.says_between hLower hUpper).congr fun x => ?_
    simp [Column.Passes, hBounds]

variable (hOrdered : c.kind.isOrdered = true)

include hOrdered

/-- An equality or its opposite is a comparison like the others. -/
theorem says_equality {call : Call} (negated : Bool) (hSome : v ≠ .null)
    (hForm : Condition.ofCall? schema queryDialect m call = (do
      let c ← Condition.column m name
      return some (Condition.ofEquality c negated (← c.coerce v))))
    (h : Condition.ofCalls schema queryDialect m [call] = .ok conditions) :
    Condition.Says c conditions (c.Meets (if negated then .notEqual else .equal) v) [v] := by
  obtain ⟨_, hAdded, rfl⟩ := ofCalls_singleton_eq_ok_iff.mp h
  obtain ⟨w, hCoerce, rfl⟩ := exists_of_ofCall? hColumn (fun c => c.coerce v)
    (fun c w => Condition.ofEquality c negated w) hForm hAdded
  rw [Option.toList, Condition.ofEquality_of_isOf (Column.isOf_coerce hOrdered hSome hCoerce)]
  exact Condition.says_compare _ hCoerce

/-- An order comparison on an ordered column is not refused for its argument. -/
theorem exists_of_ofCall?_compare {added : Option Condition} {symbol : String}
    {comparison : Comparison} (hSymbol : Comparison.ofSymbol? symbol = some comparison)
    (hSome : v ≠ .null)
    (h : Condition.ofCall? schema queryDialect m (.compare name symbol v) = .ok added) :
    ∃ w, c.coerce v = .ok w ∧ added = some (.compare c comparison w) := by
  obtain ⟨_, hFound, h⟩ := bind_eq_ok_iff.mp h
  obtain rfl := Except.ok.inj (hColumn.symm.trans hFound)
  rw [hSymbol] at h
  obtain ⟨w, hCoerce, h⟩ := bind_eq_ok_iff.mp h
  rw [Condition.ofOrder_of_isOf (Column.isOf_coerce hOrdered hSome hCoerce)] at h
  exact ⟨w, hCoerce, (Except.ok.inj h).symm⟩

theorem says_order {symbol : String} {comparison : Comparison}
    (hSymbol : Comparison.ofSymbol? symbol = some comparison) (hSome : v ≠ .null)
    (h : Condition.ofCalls schema queryDialect m [.compare name symbol v] = .ok conditions) :
    Condition.Says c conditions (c.Meets comparison v) [v] := by
  obtain ⟨_, hAdded, rfl⟩ := ofCalls_singleton_eq_ok_iff.mp h
  obtain ⟨w, hCoerce, rfl⟩ := exists_of_ofCall?_compare hColumn hOrdered hSymbol hSome hAdded
  exact Condition.says_compare comparison hCoerce

theorem says_orderOrNull {symbol : String} {comparison : Comparison}
    (hSymbol : Comparison.ofSymbol? symbol = some comparison) (hSome : v ≠ .null)
    (h : Condition.ofCalls schema queryDialect m [.any [.isNull name, .compare name symbol v]] =
      .ok conditions) :
    Condition.Says c conditions
      (fun x => (x.cell c.name).isNull = true ∨ c.Meets comparison v x) [v] := by
  obtain ⟨_, hAdded, rfl⟩ := ofCalls_singleton_eq_ok_iff.mp h
  obtain ⟨group, hGroup, hAdded⟩ := bind_eq_ok_iff.mp hAdded
  obtain ⟨_, rest, hNull, hRest, rfl⟩ := Condition.ofCalls_cons_eq_ok_iff.mp hGroup
  obtain ⟨_, hCompare, rfl⟩ := ofCalls_singleton_eq_ok_iff.mp hRest
  obtain ⟨w, hCoerce, rfl⟩ := exists_of_ofCall?_compare hColumn hOrdered hSymbol hSome hCompare
  obtain ⟨_, -, rfl⟩ := exists_of_ofCall? hColumn (fun _ => .ok ()) (fun c _ => .isNull c) rfl hNull
  obtain rfl := Except.ok.inj hAdded
  exact Condition.says_orNull comparison hCoerce

/-- A list is compared with as its condition holds. -/
theorem says_listCall {call : Call} {test : Row → Prop} (make : Column → List Value → Condition)
    (hForm : Condition.ofCall? schema queryDialect m call = (do
      let c ← Condition.column m name
      return some (make c (← c.coerceAll v.splitList))))
    (hBindings : ∀ ws, (make c ws).bindings = Condition.listBindings c ws)
    (hEval : ∀ {ws}, c.coerceAll v.splitList = .ok ws → ∀ db x,
      Condition.eval db x (make c ws) = some true ↔ test x)
    (h : Condition.ofCalls schema queryDialect m [call] = .ok conditions) :
    Condition.Says c conditions test v.splitList := by
  obtain ⟨_, hAdded, rfl⟩ := ofCalls_singleton_eq_ok_iff.mp h
  obtain ⟨ws, hCoerce, rfl⟩ :=
    exists_of_ofCall? hColumn (fun c => c.coerceAll v.splitList) make hForm hAdded
  exact Condition.says_list hOrdered (fun _ => ne_null_of_mem_splitList) hCoerce (hBindings ws)
    (hEval hCoerce)

/-- **What an operator asks of an ordered column**, if it compares and its argument says
something. -/
theorem says_leafCalls (hCompares : op.compares = true) (hSays : saysNothing op v = false)
    (h : Condition.ofCalls schema queryDialect m (leafCalls dialect name op v) = .ok conditions) :
    Condition.Says c conditions (c.Passes op v) (operands op v) := by
  have hBlank : v.isBlank = false := (Bool.or_eq_false_iff.mp hSays).1
  have hSome := ne_null_of_not_isBlank hBlank
  have hItems : ∀ a ∈ v.splitList, a ≠ .null := fun _ => ne_null_of_mem_splitList
  -- an operator makes one comparison, one beside a test for null, a list or a pair of bounds
  cases op with
  | equal => exact says_equality hColumn hOrdered false (trimmed_ne_null hSome) rfl h
  | notEqual => exact says_equality hColumn hOrdered true (trimmed_ne_null hSome) rfl h
  | less => exact says_order hColumn hOrdered (by decide) hSome h
  | lessEqual => exact says_order hColumn hOrdered (by decide) hSome h
  | greater => exact says_order hColumn hOrdered (by decide) hSome h
  | greaterEqual => exact says_order hColumn hOrdered (by decide) hSome h
  | greaterOrNull => exact says_orderOrNull hColumn hOrdered (by decide) hSome h
  | lessOrNull => exact says_orderOrNull hColumn hOrdered (by decide) hSome h
  | among =>
    rw [leafCalls_list (.inl ⟨rfl, rfl⟩) (splitList_ne_nil (.inl rfl) hSays)] at h
    exact says_listCall hColumn hOrdered (fun c ws => .among c ws) rfl (fun _ => rfl)
      (fun hCoerce _ _ => Condition.eval_among_iff hOrdered hItems hCoerce) h
  | notAmong =>
    rw [leafCalls_list (.inr ⟨rfl, rfl⟩) (splitList_ne_nil (.inr rfl) hSays)] at h
    exact says_listCall hColumn hOrdered (fun c ws => .notAmong c ws) rfl (fun _ => rfl)
      (fun hCoerce _ _ => Condition.eval_notAmong_iff hOrdered hItems hCoerce) h
  | between => exact says_period hColumn h
  | like | notNull | json => cases hCompares

end Leaf

/-! ## The rows of one operator -/

/-- The conditions of nested scopes ask for a chain to a row that satisfies the conditions inside,
and have their parameters. -/
theorem exists_conditions_of_nest {db : Database} {dialect : String} {m target : Model}
    {names : List String} {calls : List Call} {conditions : List Condition}
    (hFollow : db.schema.follow? m names = some target)
    (h : Condition.ofCalls db.schema dialect m (Call.nest names calls) = .ok conditions) :
    ∃ inner, Condition.ofCalls db.schema dialect target calls = .ok inner ∧
      Condition.allBindings conditions = Condition.allBindings inner ∧
      ∀ r, (∀ d ∈ conditions, Condition.eval db r d = some true) ↔
        ∃ x, db.Chain m r names target x ∧ ∀ d ∈ inner, Condition.eval db x d = some true := by
  -- on the path, from whichever model the rest of it starts
  induction names generalizing m conditions with
  | nil =>
    obtain rfl : m = target := Option.some.inj hFollow
    refine ⟨conditions, h, rfl, fun r => ?_⟩
    simp only [Database.chain_nil_iff, exists_eq_left]
  | cons name names ih =>
    obtain ⟨rel, next, hRelation, hNext, hFollow⟩ := Schema.follow?_cons_eq_some_iff.mp hFollow
    obtain ⟨_, hAdded, rfl⟩ := ofCalls_singleton_eq_ok_iff.mp h
    obtain ⟨rel', next', scope, hRelation', hNext', hScope, rfl⟩ :=
      Condition.ofCall?_has_eq_ok_iff.mp hAdded
    obtain rfl : rel = rel' := Option.some.inj (hRelation.symm.trans hRelation')
    obtain rfl : next = next' := Option.some.inj (hNext.symm.trans hNext')
    obtain ⟨inner, hInner, hBindings, hChain⟩ := ih hFollow hScope
    refine ⟨inner, hInner, (List.append_nil _).trans hBindings, fun r => ?_⟩
    simp only [Option.toList_some, List.forall_mem_singleton, Condition.eval_has_iff, hChain,
      Database.chain_cons_iff hRelation hNext]
    constructor
    · rintro ⟨y, hRelated, x, hRest, hAll⟩
      exact ⟨x, ⟨y, hRelated, hRest⟩, hAll⟩
    · rintro ⟨x, ⟨y, hRelated, hRest⟩, hAll⟩
      exact ⟨y, hRelated, x, hRest, hAll⟩

namespace Options

/-- A filter map of one operator, on a query of a model, is not refused and the store answers with
these rows. Equality may be written without its operator. -/
def Selects (o : Options) (db : Database) (m : Model) (dialect : String) (key : Value)
    (op : Operator) (v : Value) (rows : List Row) : Prop :=
  ∃ argument name s, operatorEntries argument = [(name, v)] ∧ operatorOf name = .ok op ∧
    (Selection.ofModel m dialect).callAll db.schema
      (o.calls dialect (.mapping [(key, argument)])) = (s, none) ∧
    s.all db = .ok rows

/-- A key of a filter map, which is read as it is, is not that of the search term and spells a path
of relations from a model to an ordered column of another. -/
structure Reaches (o : Options) (schema : Schema) (m : Model) (key : Value) (names : List String)
    (target : Model) (c : Column) : Prop where
  edits : o.edits = []
  field : key.sameKey (.text o.termKey) = false
  read : FieldPath.read o.externalId key = .ok ⟨names, c.name⟩
  follow : schema.follow? m names = some target
  column : target.column? c.name = some c
  ordered : c.kind.isOrdered = true

variable {o : Options} {db : Database} {m target : Model} {dialect : String} {key v : Value}
  {op : Operator} {rows : List Row} {names : List String} {c : Column}

/-- A blank argument asks for nothing, so it is not refused, and the store answers. -/
theorem Reaches.exists_selects_of_isBlank (hKey : o.Reaches db.schema m key names target c)
    (hBlank : v.isBlank = true) (hTakes : op ≠ .notNull) :
    ∃ rows, o.Selects db m dialect key op v rows := by
  have hCalls : o.calls dialect (.mapping [(key, .mapping [(.text op.wireName, v)])]) = [] := by
    rw [calls_of_operator hKey.edits (Bool.eq_false_iff.mp hKey.field) hKey.read rfl
      (operatorOf_wireName op), if_pos ⟨hTakes, hBlank⟩]
  have hAnswered : (Selection.ofModel m dialect).check db .rows = .ok () :=
    (Selection.IsAnswered.ofModel db m dialect).check_rows
  refine ⟨_, .mapping [(.text op.wireName, v)], .text op.wireName, Selection.ofModel m dialect, rfl,
    operatorOf_wireName op, ?_, (Selection.all_eq_ok_iff rfl).mpr ⟨hAnswered, rfl⟩⟩
  rw [hCalls]
  rfl

namespace Selects

variable (hKey : o.Reaches db.schema m key names target c)
  (h : o.Selects db m dialect key op v rows)

include hKey h

/-- The conditions of the operator, and their rows. -/
theorem exists_conditions : ∃ conditions,
    Condition.ofCalls db.schema dialect m
      (if op ≠ .notNull ∧ v.isBlank = true then []
        else Call.nest names (leafCalls (o.dialect?.getD dialect) c.name op v)) =
      .ok conditions ∧
    Condition.refusals (Condition.allBindings conditions) = [] ∧
    ∀ r, r ∈ rows ↔ r ∈ db.rows m ∧ ∀ d ∈ conditions, Condition.eval db r d = some true := by
  obtain ⟨argument, name, s, hOperators, hOperator, hCalls, hRows⟩ := h
  have hField : ¬ o.IsTerm (key, argument) := Bool.eq_false_iff.mp hKey.field
  have hCap : s.cap = none := Selection.cap_of_callAll isFilter_of_mem_calls rfl hCalls
  obtain ⟨conditions, hConditions, rfl⟩ :=
    (Selection.callAll_eq_iff isFilter_of_mem_calls rfl).mp hCalls
  rw [calls_of_operator hKey.edits hField hKey.read hOperators hOperator] at hConditions
  refine ⟨conditions, hConditions, ?_, fun r => ?_⟩
  · have hCheck := ((Selection.all_eq_ok_iff hCap).mp hRows).1
    exact (Selection.refusals_of_refusal?
      (Option.or_eq_none_iff.mp (Selection.check_eq_ok_iff.mp hCheck)).1).1
  · rw [Selection.mem_all_iff hCap hRows, Selection.mem_matching_iff]
    rfl

/-- A blank argument selects every row. -/
theorem mem_iff_of_isBlank (hBlank : v.isBlank = true) (hTakes : op ≠ .notNull) (r : Row) :
    r ∈ rows ↔ r ∈ db.rows m := by
  obtain ⟨conditions, hConditions, -, hRows⟩ := exists_conditions hKey h
  rw [if_pos ⟨hTakes, hBlank⟩] at hConditions
  obtain rfl : [] = conditions := Except.ok.inj hConditions
  simpa using hRows r

variable (hCompares : op.compares = true) (hSays : saysNothing op v = false)

include hCompares hSays

theorem exists_says : ∃ conditions,
    Condition.refusals (Condition.allBindings conditions) = [] ∧
    Condition.Says c conditions (c.Passes op v) (operands op v) ∧
    ∀ r, r ∈ rows ↔ r ∈ db.rows m ∧
      ∃ x, db.Chain m r names target x ∧ ∀ d ∈ conditions, Condition.eval db x d = some true := by
  obtain ⟨outer, hOuter, hTaken, hRows⟩ := exists_conditions hKey h
  have hBlank : ¬ (op ≠ .notNull ∧ v.isBlank = true) := by
    rw [(Bool.or_eq_false_iff.mp hSays).1]
    exact fun h => Bool.false_ne_true h.2
  rw [if_neg hBlank] at hOuter
  obtain ⟨conditions, hConditions, hBindings, hChain⟩ :=
    exists_conditions_of_nest hKey.follow hOuter
  have hColumn : Condition.column target c.name = .ok c := by
    rw [Condition.column, hKey.column]
  refine ⟨conditions, hBindings ▸ hTaken,
    says_leafCalls hColumn hKey.ordered hCompares hSays hConditions, fun r => ?_⟩
  rw [hRows, hChain]

/-- **The rows of an operator that compares** are those from which a chain of related rows leads to
a row that passes its test. -/
theorem mem_iff (r : Row) :
    r ∈ rows ↔ r ∈ db.rows m ∧ ∃ x, db.Chain m r names target x ∧ c.Passes op v x := by
  obtain ⟨conditions, -, hSays, hRows⟩ := exists_says hKey h hCompares hSays
  simp only [hRows, hSays.eval_iff]

/-- The store has taken what the column makes of the arguments. -/
theorem takes : ∀ a ∈ operands op v, c.Takes a := by
  obtain ⟨conditions, hTaken, hSays, -⟩ := exists_says hKey h hCompares hSays
  exact hSays.takes hTaken

omit hCompares hSays in
/-- The rows of an operator of one argument, which may be blank. -/
theorem mem_iff_of_comparesOne (hOne : op.comparesOne = true) (r : Row) :
    r ∈ rows ↔ r ∈ db.rows m ∧
      (v.isBlank = true ∨ ∃ x, db.Chain m r names target x ∧ c.Passes op v x) := by
  cases hBlank : v.isBlank with
  | true =>
    have hTakes : op ≠ .notNull := by
      rintro rfl
      cases hOne
    simp [mem_iff_of_isBlank hKey h hBlank hTakes]
  | false =>
    rw [mem_iff hKey h (compares_of_comparesOne hOne)
      ((saysNothing_eq_isBlank hOne).trans hBlank)]
    simp

end Selects

end Options

/-- The products of the sample shop after a filter map of one operator. -/
def productsWith (key : Value) (op : Operator) (v : Value) : Selection × Option Error :=
  productsAfter [(key, .mapping [(.text op.wireName, v)])]

/-- The products of the sample shop after the calls of one operator on a path. -/
def productsAlong (names : List String) (column : String) (op : Operator) (v : Value) :
    Selection × Option Error :=
  (Selection.ofModel Sample.product "sqlite").callAll Sample.shop.schema
    (if op ≠ .notNull ∧ v.isBlank = true then [] else Call.nest names (leafCalls "sqlite" column op v))

/-- Are the calls not refused, and does nothing keep the store from an answer? -/
def answersAlong (names : List String) (column : String) (op : Operator) (v : Value) : Bool :=
  (productsAlong names column op v).2.isNone &&
    (((productsAlong names column op v).1.refusal? .rows).or
      ((productsAlong names column op v).1.fault? Sample.shop .rows)).isNone

section

variable {key v : Value} {op : Operator} {names : List String} {target : Model} {c : Column}
  (hKey : Options.default.Reaches Sample.shop.schema Sample.product key names target c)

include hKey

/-- The key is read once: what an operator selects there is computed from its path. -/
theorem productsWith_eq : productsWith key op v = productsAlong names c.name op v :=
  congrArg _ (Options.calls_of_operator hKey.edits (Bool.eq_false_iff.mp hKey.field) hKey.read rfl
    (operatorOf_wireName op))

/-- The rows of the map are its answer, if there is one. -/
theorem selects_productsWith (h : answersAlong names c.name op v = true) :
    Options.default.Selects Sample.shop Sample.product "sqlite" key op v
      ((productsWith key op v).1.ordered Sample.shop) := by
  rw [answersAlong, ← productsWith_eq hKey] at h
  obtain ⟨hOk, hCheck⟩ := Bool.and_eq_true_iff.mp h
  have hCalls := Selection.eq_of_snd_eq_none (Option.isNone_iff_eq_none.mp hOk)
  have hCap := Selection.cap_of_callAll Options.isFilter_of_mem_calls rfl hCalls
  exact ⟨_, _, _, rfl, operatorOf_wireName op, hCalls, (Selection.all_eq_ok_iff hCap).mpr
    ⟨Selection.check_eq_ok_iff.mpr (Option.isNone_iff_eq_none.mp hCheck), rfl⟩⟩

end

/-- The column of the stock. -/
def stockColumn : Column := ⟨"stock", .integer⟩

end Filter

end Winnow
