import Winnow.Proofs.Filter.Complement
import Winnow.Proofs.Filter.Conjunction
import Winnow.Proofs.Filter.Document
import Winnow.Proofs.Store.Like

/-!
# Winnow.Proofs.Filter.Search — what a text search finds

The operator of text searches seeks its argument anywhere in a column, and the search term is sought
so in several columns at once. Main statement (`searches_find_what_is_held`): on a column of texts
the operator selects the rows whose text holds the trimmed argument up to the case of ASCII letters,
and others only if the argument has marks of patterns in it. The search term selects what the
operator selects in one of its columns. Null is found nowhere, and it hides nothing: next to it, a
match in another column is a match.

This is so as far as the store goes by the pattern alone (`Like.IsSeen`); it does not see what comes
behind a NUL. A search is not answered if its pattern is too long and there is a row to test, nor a
search for a term if it has more columns than a statement has room for (`mostColumns`).
-/

namespace Winnow

namespace Value

/-- What a text search seeks for an argument. -/
def needle (v : Value) : List Char := v.trimmed.display.toList

theorem toList_likePattern (v : Value) : v.likePattern.toList = Like.anywhere v.needle := by
  simp [likePattern, Like.anywhere, needle]

end Value

namespace Extent

/-! ## Parts of the same size -/

theorem chain_concat {es : List Extent} (h : es ≠ []) (e : Extent) :
    chain (es ++ [e]) = (chain es).join e := by
  obtain ⟨d, es, rfl⟩ := List.exists_cons_of_ne_nil h
  exact List.foldl_append

/-- Parts of the same size make a tree that leans to the left. -/
theorem chain_replicate (e : Extent) (n : Nat) :
    (chain (List.replicate (n + 1) e)).height = e.height + n ∧
      (chain (List.replicate (n + 1) e)).below = e.below ∧
      (chain (List.replicate (n + 1) e)).kept ≤ 2 + e.kept ∧
      (chain (List.replicate (n + 1) e)).marks = (n + 1) * e.marks := by
  induction n with
  | zero => simp [chain]
  | succ n ih =>
    obtain ⟨hHeight, hBelow, hKept, hMarks⟩ := ih
    rw [List.replicate_succ', chain_concat (by simp), join, hHeight, hBelow, hMarks]
    refine ⟨by dsimp only; omega, max_self _, max_le hKept (Nat.le_refl _), ?_⟩
    exact (Nat.succ_mul (n + 1) e.marks).symm

theorem sole_replicate (e : Extent) (n : Nat) :
    grouping.sole (List.replicate (n + 1) (.comparison e)) =
      chain (List.replicate (n + 1) e) := by
  cases n with
  | zero => rfl
  | succ n =>
    have hParts : (List.replicate (n + 2) (Alternative.comparison e)).map grouping.guarded =
        List.replicate (n + 2) e := List.map_replicate
    rw [← hParts]
    rfl

end Extent

namespace Selection

variable {db : Database} {m : Model} {dialect : String} {d : Condition}

theorem mem_ordered_gather_iff {conditions : List Condition} {r : Row} :
    r ∈ ((ofModel m dialect).gather conditions).ordered db ↔
      r ∈ db.rows m ∧ ∀ c ∈ conditions, Condition.eval db r c = some true := by
  rw [ordered, inOrder, List.mem_mergeSort, mem_matching_iff]
  rfl

/-- A condition that fails on every row in the same way fails on the first one. -/
theorem fault?_rows_gather {e? : Option Error} (h : ∀ r, Condition.fault? db m d r = e?) :
    ((ofModel m dialect).gather [d]).fault? db .rows = if (db.rows m).isEmpty then none else e? := by
  have hRow (r : Row) : Condition.Test.allFault? (Condition.tests db m [d]) r = e? := by
    simp only [Condition.tests, Condition.Test.allFault?, Condition.Test.ordered,
      List.mergeSort_singleton, Condition.Test.firstFault?, h]
    cases e? <;> simp
  have hForm : ((ofModel m dialect).gather [d]).fault? db .rows =
      Condition.Test.rowsFault? (Condition.tests db m [d]) none (db.rows m) := rfl
  rw [hForm]
  cases db.rows m with
  | nil => rfl
  | cons r rows =>
    cases e? with
    | none => exact Condition.Test.rowsFault?_eq_none (fun x _ => hRow x) none
    | some e =>
      unfold Condition.Test.rowsFault?
      simp [hRow]

end Selection

namespace Filter

/-! ## The condition of a search -/

/-- The condition that seeks an argument in a column. -/
def sought (dialect : String) (v : Value) (c : Column) : Condition :=
  .like c v.likePattern (foldsCase dialect)

end Filter

namespace Column

/-- Does a text search for an argument find the row by this column? -/
def Finds (c : Column) (v : Value) (x : Row) : Prop :=
  ∃ s, (x.cell c.name).stored.asText? = some s ∧ Like.test v.likePattern s = true

variable {c : Column} {v : Value} {x : Row} {s : String}

instance : Decidable (c.Finds v x) :=
  decidable_of_iff ((x.cell c.name).stored.asText?.any (Like.test v.likePattern) = true) (by
    rw [Option.any_eq_true]
    rfl)

theorem eval_sought_iff (db : Database) (dialect : String) :
    Condition.eval db x (Filter.sought dialect v c) = some true ↔ c.Finds v x := by
  rw [Filter.sought, Condition.eval, Option.map_eq_some_iff]
  rfl

/-- A search in several columns finds what a search in one of them finds. -/
theorem eval_any_sought_iff (db : Database) (dialect : String) {columns : List Column} :
    Condition.eval db x (.any (columns.map (Filter.sought dialect v))) = some true ↔
      ∃ c ∈ columns, c.Finds v x := by
  rw [Condition.eval_any_iff]
  constructor
  · rintro ⟨d, hd, hEval⟩
    obtain ⟨c, hc, rfl⟩ := List.mem_map.mp hd
    exact ⟨c, hc, (eval_sought_iff db dialect).mp hEval⟩
  · rintro ⟨c, hc, hFinds⟩
    exact ⟨_, List.mem_map_of_mem hc, (eval_sought_iff db dialect).mpr hFinds⟩

/-- Null is found nowhere. -/
theorem not_finds_of_isNull (h : (x.cell c.name).isNull = true) : ¬ c.Finds v x := by
  rintro ⟨s, hText, -⟩
  have hStored : (x.cell c.name).stored = .null := by simpa [Cell.isNull] using h
  rw [hStored] at hText
  cases hText

/-- A text is tested with the pattern, as far as the search sees both. -/
theorem finds_iff_accepts (hCell : x.cell c.name = .value (.text s))
    (hSeen : Like.IsSeen v.likePattern s) :
    c.Finds v x ↔ Like.accepts (Like.anywhere v.needle) s.toList = true := by
  have hTest : c.Finds v x ↔ Like.test v.likePattern s = true := by
    rw [Finds, hCell]
    exact ⟨fun ⟨_, hText, h⟩ => Option.some.inj hText ▸ h, fun h => ⟨s, rfl, h⟩⟩
  rw [hTest, hSeen, Value.toList_likePattern]

end Column

namespace Filter

/-- A filter map, on a query of a model, is not refused, and the store answers so. -/
def Options.Answers (o : Options) (db : Database) (m : Model) (dialect : String) (filters : Value)
    (answer : Except Error (List Row)) : Prop :=
  ∃ s, (Selection.ofModel m dialect).callAll db.schema (o.calls dialect filters) = (s, none) ∧
    s.all db = answer

section Run

variable {o : Options} {db : Database} {m : Model} {dialect queryDialect : String}
  {key operator v : Value} {c : Column} {columns : List Column}

/-! ## The calls of a search -/

/-- The one call of an entry for a text search. -/
theorem calls_like (hKey : o.Reaches db.schema m key [] m c)
    (hOperator : operatorOf operator = .ok .like) (hBlank : v.isBlank = false) :
    o.calls queryDialect (.mapping [(key, .mapping [(operator, v)])]) =
      [likeCall (o.dialect?.getD queryDialect) c.name v] := by
  have hField : ¬ o.IsTerm (key, .mapping [(operator, v)]) := Bool.eq_false_iff.mp hKey.field
  have hSays : ¬ (Operator.like ≠ .notNull ∧ v.isBlank = true) := by simp [hBlank]
  rw [Options.calls_of_operator hKey.edits hField hKey.read rfl hOperator, if_neg hSays]
  rfl

/-- The one call of the entry of the search term. -/
theorem calls_term {fields : List Value} (hEdits : o.edits = []) (hTerm : o.IsTerm (key, v))
    (hFields : o.termFields.iterated? = some fields)
    (hNames : fields.map Value.snakeCase = columns.map (·.name)) (hSome : columns ≠ [])
    (hBlank : v.isBlank = false) :
    o.calls queryDialect (.mapping [(key, v)]) =
      [.any (columns.map fun c => likeCall (o.dialect?.getD queryDialect) c.name v)] := by
  have hNone : (columns.map (·.name)).isEmpty = false := by simpa using hSome
  rw [Options.calls_mapping hEdits, Options.entryCalls_of_isTerm hTerm, Options.termCalls, hFields]
  simp only [termCalls, hNames, hBlank, hNone, List.map_map]
  rfl

theorem ofCall?_likeCall {schema : Schema} (hColumn : m.column? c.name = some c) :
    Condition.ofCall? schema queryDialect m (likeCall dialect c.name v) =
      .ok (some (sought dialect v c)) := by
  simp [likeCall, sought, Condition.ofCall?, Condition.column, hColumn, bind, Except.bind, pure,
    Except.pure]

theorem ofCall?_any_likeCalls {schema : Schema}
    (hColumns : ∀ c ∈ columns, m.column? c.name = some c) (hSome : columns ≠ []) :
    Condition.ofCall? schema queryDialect m
      (.any (columns.map fun c => likeCall dialect c.name v)) =
        .ok (some (.any (columns.map (sought dialect v)))) := by
  have hAll : Condition.ofCalls schema queryDialect m
      (columns.map fun c => likeCall dialect c.name v) = .ok (columns.map (sought dialect v)) := by
    clear hSome
    induction columns with
    | nil => rfl
    | cons c columns ih =>
      obtain ⟨hColumn, hRest⟩ := List.forall_mem_cons.mp hColumns
      exact Condition.ofCalls_cons_eq_ok_iff.mpr ⟨_, _, ofCall?_likeCall hColumn, ih hRest, rfl⟩
  obtain ⟨c, columns, rfl⟩ := List.exists_cons_of_ne_nil hSome
  rw [Condition.ofCall?, hAll]
  rfl

/-! ## The answer to a search -/

theorem fault?_sought (r : Row) : Condition.fault? db m (sought dialect v c) r =
    if Like.isTooLong v.likePattern then some .patternTooLong else none := by
  rw [sought, Condition.fault?]

theorem fault?_any_sought (hSome : columns ≠ []) (r : Row) :
    Condition.fault? db m (.any (columns.map (sought dialect v))) r =
      if Like.isTooLong v.likePattern then some .patternTooLong else none := by
  obtain ⟨c, columns, rfl⟩ := List.exists_cons_of_ne_nil hSome
  by_cases hLong : Like.isTooLong v.likePattern = true
  · rw [if_pos hLong, Condition.fault?, List.map_cons, Condition.tests, Condition.Test.anyFault?,
      Condition.Test.firstFault?]
    simp only [fault?_sought, hLong, if_true]
  · rw [if_neg hLong]
    refine Condition.fault?_of_isFaultless db _ m ?_ r
    rw [Condition.isFaultless, Condition.allFaultless_iff]
    intro d hd
    obtain ⟨c, -, rfl⟩ := List.mem_map.mp hd
    simpa [sought, Condition.isFaultless] using hLong

/-- **How the store answers a search**: a statement that is too large is not read, and a pattern that
is too long is not taken to a row. -/
theorem exists_answers {filters : Value} {call : Call} {d : Condition}
    (hCalls : o.calls dialect filters = [call])
    (hCall : Condition.ofCall? db.schema dialect m call = .ok (some d))
    (hBindings : ∀ b ∈ Condition.bindings d, ∃ a, b = .ok a)
    (hFault : ∀ r, Condition.fault? db m d r =
      if Like.isTooLong v.likePattern then some .patternTooLong else none) :
    ∃ rows, o.Answers db m dialect filters
        (if ((Selection.ofModel m dialect).gather [d]).isReadable .rows then
          if Like.isTooLong v.likePattern && !(db.rows m).isEmpty then .error .patternTooLong
          else .ok rows
        else .error .tooLarge) ∧
      ∀ r, r ∈ rows ↔ r ∈ db.rows m ∧ Condition.eval db r d = some true := by
  have hRun : (Selection.ofModel m dialect).callAll db.schema (o.calls dialect filters) =
      ((Selection.ofModel m dialect).gather [d], none) := by
    refine (Selection.callAll_eq_iff Options.isFilter_of_mem_calls rfl).mpr ⟨[d], ?_, rfl⟩
    rw [hCalls]
    exact ofCalls_singleton_eq_ok_iff.mpr ⟨some d, hCall, rfl⟩
  have hRefusals : ((Selection.ofModel m dialect).gather [d]).refusals = [] := by
    refine Condition.refusals_eq_nil_iff.mpr fun b hb => hBindings b ?_
    rwa [Selection.gather, Selection.ofModel, List.nil_append, Condition.allBindings,
      Condition.allBindings, List.append_nil] at hb
  refine ⟨((Selection.ofModel m dialect).gather [d]).ordered db, ⟨_, hRun, ?_⟩, fun r => ?_⟩
  · rw [Selection.all_eq rfl hRefusals, Selection.fault?_rows_gather hFault]
    cases Like.isTooLong v.likePattern <;> cases (db.rows m).isEmpty <;> rfl
  · rw [Selection.mem_ordered_gather_iff, List.forall_mem_singleton]

/-! ## Statements with many columns -/

/-- The size of the search in one column. -/
def searchExtent (dialect : String) : Extent :=
  if foldsCase dialect then ⟨4, 0, 7, 1⟩ else ⟨3, 0, 3, 1⟩

/-- The number of columns in which the store takes a search. -/
def mostColumns (dialect : String) : Nat := if foldsCase dialect then 997 else 998

theorem alternativesOfAll_sought (columns : List Column) :
    (Extent.alternativesOfAll (columns.map (sought dialect v))).flatten =
      List.replicate columns.length (.comparison (searchExtent dialect)) := by
  induction columns with
  | nil => rfl
  | cons c columns ih =>
    rw [List.map_cons, Extent.alternativesOfAll, List.flatten_cons, ih]
    rfl

theorem isReadable_sought (c : Column) :
    ((Selection.ofModel m dialect).gather [sought queryDialect v c]).isReadable .rows = true := by
  have hExtent : Extent.ofConditions [sought queryDialect v c] = searchExtent queryDialect := rfl
  have hReads : (searchExtent queryDialect).isReadable 5 0 = true := by
    unfold searchExtent
    split <;> decide
  exact Bool.and_eq_true_iff.mpr ⟨hExtent ▸ hReads, rfl⟩

theorem isReadable_any_sought_iff (hSome : columns ≠ []) :
    ((Selection.ofModel m dialect).gather [.any (columns.map (sought queryDialect v))]).isReadable
      .rows = true ↔ columns.length ≤ mostColumns queryDialect := by
  obtain ⟨n, hLength⟩ := Nat.exists_eq_add_one_of_ne_zero (mt List.length_eq_zero_iff.mp hSome)
  have hExtent : Extent.ofConditions [.any (columns.map (sought queryDialect v))] =
      Extent.chain (List.replicate (n + 1) (searchExtent queryDialect)) := by
    rw [← Extent.sole_replicate, ← hLength, ← alternativesOfAll_sought]
    rfl
  have hOne : (searchExtent queryDialect).height + mostColumns queryDialect = 1001 ∧
      (searchExtent queryDialect).below = 0 ∧ (searchExtent queryDialect).kept ≤ 7 ∧
      (searchExtent queryDialect).marks = 1 ∧ mostColumns queryDialect ≤ 998 := by
    unfold searchExtent mostColumns
    split <;> decide
  obtain ⟨hHeight, hBelow, hKept, hMarks⟩ := Extent.chain_replicate (searchExtent queryDialect) n
  rw [hOne.2.2.2.1, Nat.mul_one] at hMarks
  simp only [Selection.isReadable, Selection.gather, Selection.ofModel, List.nil_append, hExtent,
    Extent.isReadable, hHeight, hBelow, hMarks, hLength, Query.outside, Query.capParameters,
    Extent.maxLevels, Extent.maxKept, Extent.maxMarks, Extent.maxKeys, Bool.and_eq_true,
    decide_eq_true_iff, List.length_nil, Nat.zero_le, decide_true, and_true]
  omega

/-! ## The rows of a search -/

/-- Along a path the operator selects the rows from which a chain of related rows leads to one that
is found. -/
theorem mem_like_iff {names : List String} {target : Model} {rows : List Row}
    (hBlank : v.isBlank = false) (hKey : o.Reaches db.schema m key names target c)
    (h : o.Selects db m dialect key .like v rows) (r : Row) :
    r ∈ rows ↔ r ∈ db.rows m ∧ ∃ x, db.Chain m r names target x ∧ c.Finds v x := by
  obtain ⟨outer, hOuter, -, hRows⟩ := h.exists_conditions hKey
  have hSays : ¬ (Operator.like ≠ .notNull ∧ v.isBlank = true) := by simp [hBlank]
  rw [if_neg hSays] at hOuter
  obtain ⟨inner, hInner, -, hChain⟩ := exists_conditions_of_nest hKey.follow hOuter
  obtain ⟨added, hAdded, rfl⟩ := ofCalls_singleton_eq_ok_iff.mp hInner
  obtain rfl := Except.ok.inj ((ofCall?_likeCall hKey.column).symm.trans hAdded)
  simp only [hRows, hChain, Option.toList_some, List.forall_mem_singleton, Column.eval_sought_iff]

theorem bindings_sought (hKind : c.kind = .text) :
    Condition.bindings (sought queryDialect v c) = [.ok (.text v.likePattern)] := by
  rw [sought, Condition.bindings, hKind]
  rfl

/-- On a column of the table itself the operator is not refused. -/
theorem exists_answers_like (hBlank : v.isBlank = false) (hKey : o.Reaches db.schema m key [] m c)
    (hKind : c.kind = .text) (hOperator : operatorOf operator = .ok .like) (dialect : String) :
    ∃ rows, o.Answers db m dialect (.mapping [(key, .mapping [(operator, v)])])
        (if Like.isTooLong v.likePattern && !(db.rows m).isEmpty then .error .patternTooLong
        else .ok rows) ∧
      ∀ r, r ∈ rows ↔ r ∈ db.rows m ∧ c.Finds v r := by
  have hBindings : ∀ b ∈ Condition.bindings (sought (o.dialect?.getD dialect) v c),
      ∃ a, b = .ok a := by
    rw [bindings_sought hKind, List.forall_mem_singleton]
    exact ⟨_, rfl⟩
  have hCall : Condition.ofCall? db.schema dialect m (likeCall (o.dialect?.getD dialect) c.name v) =
      .ok (some (sought (o.dialect?.getD dialect) v c)) := ofCall?_likeCall hKey.column
  have hAnswers := exists_answers (calls_like hKey hOperator hBlank) hCall hBindings fault?_sought
  simpa only [isReadable_sought, if_true, Column.eval_sought_iff] using hAnswers

end Run

/-- The search term with this key is sought in these columns of texts. There are some, the model has
them, and the options declare them by their names; maps are read as they are. -/
structure Options.SeeksIn (o : Options) (m : Model) (key : Value) (columns : List Column) :
    Prop where
  edits : o.edits = []
  term : key.sameKey (.text o.termKey) = true
  declared : ∃ fields, o.termFields.iterated? = some fields ∧
    fields.map Value.snakeCase = columns.map (·.name)
  nonempty : columns ≠ []
  column : ∀ c ∈ columns, m.column? c.name = some c
  text : ∀ c ∈ columns, c.kind = .text

section Term

variable {o : Options} {m : Model} {key v : Value} {columns : List Column}

/-- The search term is not refused, if there are not too many columns. -/
theorem exists_answers_term (hBlank : v.isBlank = false) (h : o.SeeksIn m key columns)
    (db : Database) (dialect : String) :
    ∃ rows, o.Answers db m dialect (.mapping [(key, v)])
        (if columns.length ≤ mostColumns (o.dialect?.getD dialect) then
          if Like.isTooLong v.likePattern && !(db.rows m).isEmpty then .error .patternTooLong
          else .ok rows
        else .error .tooLarge) ∧
      ∀ r, r ∈ rows ↔ r ∈ db.rows m ∧ ∃ c ∈ columns, c.Finds v r := by
  obtain ⟨fields, hFields, hNames⟩ := h.declared
  have hBindings : ∀ b ∈ Condition.bindings
      (.any (columns.map (sought (o.dialect?.getD dialect) v))), ∃ a, b = .ok a := by
    intro b hb
    rw [Condition.bindings, Condition.mem_allBindings_iff] at hb
    obtain ⟨d, hMem, hb⟩ := hb
    obtain ⟨c, hc, rfl⟩ := List.mem_map.mp hMem
    rw [bindings_sought (h.text c hc), List.mem_singleton] at hb
    exact ⟨_, hb⟩
  have hCall : Condition.ofCall? db.schema dialect m
      (.any (columns.map fun c => likeCall (o.dialect?.getD dialect) c.name v)) =
        .ok (some (.any (columns.map (sought (o.dialect?.getD dialect) v)))) :=
    ofCall?_any_likeCalls h.column h.nonempty
  have hAnswers := exists_answers (calls_term h.edits h.term hFields hNames h.nonempty hBlank)
    hCall hBindings (fault?_any_sought h.nonempty)
  simpa only [isReadable_any_sought_iff h.nonempty, Column.eval_any_sought_iff] using hAnswers

end Term

/-- **Searches find what is held.** Let an argument say something.

A column that is null is found by no search for it. One that holds a text, of which the search sees
all that it compares, is found if the text holds the trimmed argument up to the case of ASCII
letters; and if there are no marks of patterns in the argument, it is not found otherwise. The search
sees all where there is no NUL.

The operator selects the rows from which the path of its key leads to a row that is found. On a
column of the table itself it is not refused, and it is answered unless the pattern is too long and
there is a row. The search term selects the rows that are found by one of its columns, and these are
the rows that the operator selects in one of them. It is not refused either, and it is answered
unless there are too many columns or, again, the pattern is too long. -/
theorem searches_find_what_is_held (o : Options) (db : Database) (m : Model) (dialect : String)
    (v : Value) (hBlank : v.isBlank = false) :
    (∀ (c : Column) (x : Row),
      ((x.cell c.name).isNull = true → ¬ c.Finds v x) ∧
      ∀ s, x.cell c.name = .value (.text s) → Like.IsSeen v.likePattern s →
        (Like.Holds s.toList v.needle → c.Finds v x) ∧
        ('%' ∉ v.needle → '_' ∉ v.needle → (c.Finds v x ↔ Like.Holds s.toList v.needle))) ∧
    (∀ s : String, '\x00' ∉ v.needle → '\x00' ∉ s.toList → Like.IsSeen v.likePattern s) ∧
    (∀ key names target c, o.Reaches db.schema m key names target c →
      ∀ rows, o.Selects db m dialect key .like v rows →
        ∀ r, r ∈ rows ↔ r ∈ db.rows m ∧ ∃ x, db.Chain m r names target x ∧ c.Finds v x) ∧
    (∀ key operator c, o.Reaches db.schema m key [] m c → c.kind = .text →
      operatorOf operator = .ok .like →
      ∃ rows, o.Answers db m dialect (.mapping [(key, .mapping [(operator, v)])])
          (if Like.isTooLong v.likePattern && !(db.rows m).isEmpty then .error .patternTooLong
          else .ok rows) ∧
        ∀ r, r ∈ rows ↔ r ∈ db.rows m ∧ c.Finds v r) ∧
    ∀ key columns, o.SeeksIn m key columns →
      ∃ rows, o.Answers db m dialect (.mapping [(key, v)])
          (if columns.length ≤ mostColumns (o.dialect?.getD dialect) then
            if Like.isTooLong v.likePattern && !(db.rows m).isEmpty then .error .patternTooLong
            else .ok rows
          else .error .tooLarge) ∧
        (∀ r, r ∈ rows ↔ r ∈ db.rows m ∧ ∃ c ∈ columns, c.Finds v r) ∧
        ∀ found : Column → List Row,
          (∀ c ∈ columns, ∃ key, o.Reaches db.schema m key [] m c ∧
            o.Selects db m dialect key .like v (found c)) →
          ∀ r, r ∈ rows ↔ ∃ c ∈ columns, r ∈ found c := by
  refine ⟨fun c x => ⟨Column.not_finds_of_isNull, fun s hCell hSeen => ?_⟩,
    fun s hNeedle hText => ?_, ?_, ?_, ?_⟩
  · rw [Column.finds_iff_accepts hCell hSeen]
    exact ⟨Like.accepts_of_holds, Like.accepts_iff_holds⟩
  · refine Like.isSeen_of_not_mem ?_ hText
    rw [Value.toList_likePattern]
    simpa [Like.anywhere] using hNeedle
  · intro key names target c hKey rows h r
    exact mem_like_iff hBlank hKey h r
  · intro key operator c hKey hKind hOperator
    exact exists_answers_like hBlank hKey hKind hOperator dialect
  · intro key columns hSeeks
    obtain ⟨rows, hAnswers, hRows⟩ := exists_answers_term hBlank hSeeks db dialect
    refine ⟨rows, hAnswers, hRows, fun found hFound r => ?_⟩
    -- on a path of no relations the row itself is the end of the chain
    have hEach : ∀ c ∈ columns, (r ∈ found c ↔ r ∈ db.rows m ∧ c.Finds v r) := by
      intro c hc
      obtain ⟨key, hKey, h⟩ := hFound c hc
      rw [mem_like_iff hBlank hKey h]
      simp only [Database.chain_nil_iff, exists_eq_left]
    rw [hRows]
    constructor
    · rintro ⟨hRow, c, hc, hFinds⟩
      exact ⟨c, hc, (hEach c hc).mpr ⟨hRow, hFinds⟩⟩
    · rintro ⟨c, hc, hMem⟩
      obtain ⟨hRow, hFinds⟩ := (hEach c hc).mp hMem
      exact ⟨hRow, c, hc, hFinds⟩

/-- The column of the description. -/
def descriptionColumn : Column := ⟨"description", .text⟩

theorem seeksIn_textOptions :
    textOptions.SeeksIn Sample.product (.text "term") [nameColumn, descriptionColumn] where
  edits := rfl
  term := by decide
  declared := ⟨[.text "name", .text "description"], rfl, by decide⟩
  nonempty := nofun
  column := by decide
  text := by decide

/-- A word in capitals and with blanks around it: two products have it in their names, one of them
without a description, and a third one has it in its description. -/
theorem searches_find_what_is_held_galaxy :
    (Value.text " GALAXY ").needle = "GALAXY".toList ∧
    (∃ rows, textOptions.Answers Sample.shop Sample.product "sqlite"
        (.mapping [(.text "name", .mapping [(.text "like", .text " GALAXY ")])]) (.ok rows) ∧
      ∀ r ∈ Sample.shop.rows Sample.product, (r ∈ rows ↔ r.key ∈ [1, 2])) ∧
    ∃ rows, textOptions.Answers Sample.shop Sample.product "sqlite"
        (.mapping [(.text "term", .text " GALAXY ")]) (.ok rows) ∧
      ∀ r ∈ Sample.shop.rows Sample.product, (r ∈ rows ↔ r.key ∈ [1, 2, 3]) := by
  have hName : textOptions.Reaches Sample.shop.schema Sample.product (.text "name") []
      Sample.product nameColumn :=
    { reaches_name with field := by decide }
  obtain ⟨-, -, -, hLike, hTerm⟩ := searches_find_what_is_held textOptions Sample.shop Sample.product
    "sqlite" (.text " GALAXY ") (by decide)
  refine ⟨by decide, ?_, ?_⟩
  · obtain ⟨rows, hAnswers, hRows⟩ := hLike _ _ _ hName rfl (operatorOf_wireName .like)
    have hFound : ∀ r ∈ Sample.shop.rows Sample.product,
        (nameColumn.Finds (.text " GALAXY ") r ↔ r.key ∈ [1, 2]) := by decide +kernel
    refine ⟨rows, hAnswers, fun r hRow => ?_⟩
    rw [hRows, and_iff_right hRow, hFound r hRow]
  · obtain ⟨rows, hAnswers, hRows, -⟩ := hTerm _ _ seeksIn_textOptions
    have hFound : ∀ r ∈ Sample.shop.rows Sample.product,
        ((∃ c ∈ [nameColumn, descriptionColumn], c.Finds (.text " GALAXY ") r) ↔
          r.key ∈ [1, 2, 3]) := by decide +kernel
    refine ⟨rows, hAnswers, fun r hRow => ?_⟩
    rw [hRows, and_iff_right hRow, hFound r hRow]

end Filter

end Winnow
