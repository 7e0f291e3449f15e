import Winnow.Filter
import Winnow.Proofs.Store.Gathering

/-!
# Winnow.Proofs.Filter.Entry — the calls of a map are those of its entries

A filter map is read as one list of calls, with the search term first. This module takes the list
apart: a call is among those of the map exactly if it is among those of a map with one entry of it
(`Options.mem_entryCalls_iff`), and the calls of an entry on a field are those of its operators
(`Options.mem_operatorEntry_iff`). No call orders or caps (`Options.isFilter_of_mem_calls`).

What a single call can be is said once, for all operators (`LeafCall`, `operatorCalls_cases`,
`entryCalls_cases`, `Options.termCalls_cases`), so that whatever holds of all calls is proved by
cases and without a look at how an operator makes them.

Keys of a map are distinct (`Value.DistinctKeys`). The only place where this matters is the search
term, whose entry is looked up and not read in its turn: without distinct keys the map could have
two of them, and only the first would be read (`Options.TermUnique`).
-/

namespace Winnow

/-! ## Keys -/

namespace Value

/-- A value is the same key as a text exactly if it counts as that text. -/
theorem sameKey_text_iff {v : Value} {s : String} :
    v.sameKey (.text s) = true ↔ v.asText? = some s := by
  cases v <;> simp [sameKey, asText?]

/-- No two entries have the same key. -/
def DistinctKeys (entries : List (Value × Value)) : Prop :=
  entries.Pairwise fun a b => a.1.sameKey b.1 = false

instance (entries : List (Value × Value)) : Decidable (DistinctKeys entries) :=
  inferInstanceAs (Decidable (List.Pairwise _ entries))

/-- Two values that are the same key as a text are the same key. -/
theorem sameKey_of_text {v w : Value} {s : String} (hv : v.sameKey (.text s) = true)
    (hw : w.sameKey (.text s) = true) : v.sameKey w = true := by
  rw [sameKey_text_iff] at hv hw
  cases v <;> cases w <;> simp_all [sameKey, asText?]

end Value

namespace Filter

/-! ## What operators ask of a column -/

/-- The calls that an operator with an argument can make on a column. -/
inductive LeafCall (dialect column : String) (v : Value) : Call → Prop
  | equals : LeafCall dialect column v (.equals column v.trimmed)
  | notEquals : LeafCall dialect column v (.notEquals column v.trimmed)
  | compare (symbol : String) (h : symbol ∈ ["<", "<=", ">", ">="]) :
      LeafCall dialect column v (.compare column symbol v)
  | among : LeafCall dialect column v (.among column v.splitList)
  | notAmong : LeafCall dialect column v (.notAmong column v.splitList)
  | like : LeafCall dialect column v (likeCall dialect column v)
  | notNull : LeafCall dialect column v (.notNull column)
  | between (lower upper : String) : LeafCall dialect column v (.between column (.text lower) (.text upper))
  | orNull (symbol : String) (h : symbol ∈ ["<", "<=", ">", ">="]) :
      LeafCall dialect column v (.any [.isNull column, .compare column symbol v])
  /-- One value is sought under a key of a document. -/
  | document (entries : List (Value × Value)) (e : Value × Value) (item : Value)
      (hEntries : v.entries? = some entries) (hMem : e ∈ entries) (hItem : item ∈ e.2.splitList) :
      LeafCall dialect column v (.documentHas column e.1.display item)
  /-- Several values are sought under a key of a document. -/
  | documents (entries : List (Value × Value)) (e : Value × Value)
      (hEntries : v.entries? = some entries) (hMem : e ∈ entries) :
      LeafCall dialect column v (.any (e.2.splitList.map (.documentHas column e.1.display)))
  /-- The argument is not one of the operator, and whoever wrote it is told so. -/
  | fail (e : Error) (h : e.isClient = true) : LeafCall dialect column v (.fail e)

theorem isClient_of_bound {upper : Bool} {fragment : String} {e : Error}
    (h : Period.bound upper fragment = .error e) : e.isClient = true := by
  unfold Period.bound at h
  dsimp only at h
  repeat' split at h
  all_goals cases h
  rfl

theorem isClient_of_bounds {v : Value} {e : Error} (h : Period.bounds v = .error e) :
    e.isClient = true := by
  have hTwo {lower upper : String} (h : (do
      let lower ← Period.bound false lower
      return (lower, ← Period.bound true upper) : Except Error (String × String)) = .error e) :
      e.isClient = true := by
    rcases bind_eq_error_iff.mp h with hLower | ⟨_, -, h⟩
    · exact isClient_of_bound hLower
    · rcases bind_eq_error_iff.mp h with hUpper | ⟨_, -, h⟩
      · exact isClient_of_bound hUpper
      · cases h
  unfold Period.bounds at h
  split at h
  · exact hTwo h
  · exact hTwo h
  · cases h
    rfl

/-- **The calls of an operator** are such calls, whatever the operator. -/
theorem leafCall_of_mem {dialect column : String} {op : Operator} {v : Value} {call : Call}
    (h : call ∈ leafCalls dialect column op v) : LeafCall dialect column v call := by
  cases op with
  | equal => exact List.mem_singleton.mp h ▸ .equals
  | notEqual => exact List.mem_singleton.mp h ▸ .notEquals
  | less => exact List.mem_singleton.mp h ▸ .compare "<" (by decide)
  | lessEqual => exact List.mem_singleton.mp h ▸ .compare "<=" (by decide)
  | greater => exact List.mem_singleton.mp h ▸ .compare ">" (by decide)
  | greaterEqual => exact List.mem_singleton.mp h ▸ .compare ">=" (by decide)
  | among =>
    simp only [leafCalls] at h
    split at h
    · cases h
    · exact List.mem_singleton.mp h ▸ .among
  | notAmong =>
    simp only [leafCalls] at h
    split at h
    · cases h
    · exact List.mem_singleton.mp h ▸ .notAmong
  | like => exact List.mem_singleton.mp h ▸ .like
  | notNull => exact List.mem_singleton.mp h ▸ .notNull
  | between =>
    simp only [leafCalls] at h
    split at h
    · exact List.mem_singleton.mp h ▸ .between _ _
    · rename_i e hBounds
      exact List.mem_singleton.mp h ▸ .fail e (isClient_of_bounds hBounds)
  | greaterOrNull => exact List.mem_singleton.mp h ▸ .orNull ">" (by decide)
  | lessOrNull => exact List.mem_singleton.mp h ▸ .orNull "<" (by decide)
  | json =>
    simp only [leafCalls] at h
    split at h
    · rename_i entries hEntries
      obtain ⟨e, hMem, hCall⟩ := List.mem_filterMap.mp h
      -- one value under the key is sought by itself, several in a group
      unfold documentCall? at hCall
      split at hCall
      · cases hCall
      · rename_i item hItems
        cases hCall
        exact .document entries e item hEntries hMem (hItems ▸ List.mem_singleton_self item)
      · cases hCall
        exact .documents entries e hEntries hMem
    · exact List.mem_singleton.mp h ▸ .fail _ rfl

/-! ## What entries ask -/

/-- An operator is not known, and whoever named it is told so, or it asks something of the column
that the path leads to. -/
theorem operatorCalls_cases {dialect : String} {path : FieldPath} {key v : Value} {call : Call}
    (h : call ∈ operatorCalls dialect path key v) :
    (∃ e, e.isClient = true ∧ call = .fail e) ∨ ∃ op, call ∈ conditionCalls dialect path op v := by
  unfold operatorCalls at h
  split at h
  · rename_i e hOperator
    refine Or.inl ⟨e, ?_, List.mem_singleton.mp h⟩
    unfold operatorOf at hOperator
    repeat' split at hOperator
    all_goals cases hOperator
    rfl
  · split at h
    · cases h
    · exact Or.inr ⟨_, h⟩

/-- The key of an entry spells no path, and whoever wrote it is told so, or one of its operators
makes the call. -/
theorem entryCalls_cases {dialect externalId : String} {key v : Value} {call : Call}
    (h : call ∈ entryCalls dialect externalId key v) :
    (∃ e, e.isClient = true ∧ call = .fail e) ∨
      ∃ path p op, FieldPath.read externalId key = .ok path ∧ p ∈ operatorEntries v ∧
        call ∈ conditionCalls dialect path op p.2 := by
  unfold entryCalls at h
  split at h
  · rename_i e hRead
    refine Or.inl ⟨e, ?_, List.mem_singleton.mp h⟩
    unfold FieldPath.read at hRead
    dsimp only at hRead
    split at hRead
    · cases hRead
      rfl
    · cases hRead
  · rename_i path hRead
    obtain ⟨p, hMem, h⟩ := List.mem_flatMap.mp h
    refine (operatorCalls_cases h).imp id ?_
    rintro ⟨op, hCall⟩
    exact ⟨path, p, op, hRead, hMem, hCall⟩

/-! ## Filters do not order and do not cap -/

theorem isFilter_of_mem_leafCalls {dialect column : String} {op : Operator} {v : Value} :
    ∀ call ∈ leafCalls dialect column op v, call.isFilter = true := by
  intro call h
  cases leafCall_of_mem h <;> rfl

theorem isFilter_of_mem_conditionCalls {dialect : String} {path : FieldPath} {op : Operator}
    {v : Value} : ∀ call ∈ conditionCalls dialect path op v, call.isFilter = true := by
  intro call h
  unfold conditionCalls at h
  cases hRelations : path.relations with
  | nil =>
    rw [hRelations] at h
    exact isFilter_of_mem_leafCalls call h
  | cons relation relations =>
    rw [hRelations] at h
    rw [List.mem_singleton.mp h]
    rfl

theorem isFilter_of_mem_operatorCalls {dialect : String} {path : FieldPath} {key v : Value} :
    ∀ call ∈ operatorCalls dialect path key v, call.isFilter = true := by
  intro call h
  rcases operatorCalls_cases h with ⟨e, -, rfl⟩ | ⟨op, hCall⟩
  · rfl
  · exact isFilter_of_mem_conditionCalls call hCall

theorem isFilter_of_mem_entryCalls {dialect externalId : String} {key v : Value} :
    ∀ call ∈ entryCalls dialect externalId key v, call.isFilter = true := by
  intro call h
  rcases entryCalls_cases h with ⟨e, -, rfl⟩ | ⟨path, p, op, -, -, hCall⟩
  · rfl
  · exact isFilter_of_mem_conditionCalls call hCall

namespace Options

variable {o : Options} {dialect : String} {entries : List (Value × Value)}

/-- The calls of the entry of the search term. -/
def termCalls (o : Options) (dialect : String) (v : Value) : List Call :=
  match o.termFields.iterated? with
  | some fields => Filter.termCalls dialect v (fields.map Value.snakeCase)
  | none => [.fail .wrongType]

/-- The search term is sought in all declared fields at once, if something yields them. -/
theorem termCalls_cases {v : Value} {call : Call} (h : call ∈ o.termCalls dialect v) :
    (∃ fields, o.termFields.iterated? = some fields ∧
      call = .any ((fields.map Value.snakeCase).map (likeCall dialect · v))) ∨
      o.termFields.iterated? = none ∧ call = .fail .wrongType := by
  unfold termCalls at h
  split at h
  · rename_i fields hFields
    unfold Filter.termCalls at h
    split at h
    · cases h
    · exact Or.inl ⟨fields, hFields, List.mem_singleton.mp h⟩
  · rename_i hFields
    exact Or.inr ⟨hFields, List.mem_singleton.mp h⟩

theorem isFilter_of_mem_termCalls {v : Value} :
    ∀ call ∈ o.termCalls dialect v, call.isFilter = true := by
  intro call h
  rcases termCalls_cases h with ⟨fields, -, rfl⟩ | ⟨-, rfl⟩
  · rfl
  · rfl

/-! ## Entries of a map -/

/-- Without edits the entries of a mapping are read as they are. -/
theorem calls_mapping (hEdits : o.edits = []) (queryDialect : String)
    (entries : List (Value × Value)) :
    o.calls queryDialect (.mapping entries) =
      o.entryCalls (o.dialect?.getD queryDialect) entries := by
  have hEntries : o.entries (.mapping entries) = .ok entries := by
    cases entries with
    | nil => simp [Options.entries, hEdits, entriesOf, Value.isTruthy, bind, Except.bind, pure,
        Except.pure]
    | cons e es => simp [Options.entries, hEdits, entriesOf, Value.isTruthy, bind, Except.bind, pure,
        Except.pure]
  rw [calls, hEntries]

/-- Is the entry that of the search term? -/
def IsTerm (o : Options) (e : Value × Value) : Prop := e.1.sameKey (.text o.termKey) = true

instance (o : Options) (e : Value × Value) : Decidable (o.IsTerm e) :=
  inferInstanceAs (Decidable (_ = true))

/-- There is at most one entry of the search term. -/
def TermUnique (o : Options) (entries : List (Value × Value)) : Prop :=
  ∀ a ∈ entries, ∀ b ∈ entries, o.IsTerm a → o.IsTerm b → a = b

theorem termUnique_of_distinctKeys (h : Value.DistinctKeys entries) : o.TermUnique entries := by
  induction entries with
  | nil => intro a ha; cases ha
  | cons e es ih =>
    obtain ⟨hHead, hTail⟩ := List.pairwise_cons.mp h
    have hOther (hTerm : o.IsTerm e) (x : Value × Value) (hx : x ∈ es) : ¬ o.IsTerm x := by
      intro hTermX
      have hSame := Value.sameKey_of_text hTerm hTermX
      rw [hHead x hx] at hSame
      cases hSame
    intro a ha b hb hTermA hTermB
    cases ha with
    | head =>
      cases hb with
      | head => rfl
      | tail _ hb => exact absurd hTermB (hOther hTermA b hb)
    | tail _ ha =>
      cases hb with
      | head => exact absurd hTermA (hOther hTermB a ha)
      | tail _ hb => exact ih hTail a ha b hb hTermA hTermB

theorem entryCalls_eq (o : Options) (dialect : String) (entries : List (Value × Value)) :
    o.entryCalls dialect entries =
      ((Value.lookup? (.text o.termKey) entries).map (o.termCalls dialect)).getD [] ++
        (Value.erase entries (.text o.termKey)).flatMap fun e =>
          Filter.entryCalls dialect o.externalId e.1 e.2 := by
  unfold entryCalls
  cases Value.lookup? (.text o.termKey) entries with
  | none => rfl
  | some v => rfl

/-- The entry of the search term by itself. -/
theorem entryCalls_of_isTerm {e : Value × Value} (h : o.IsTerm e) :
    o.entryCalls dialect [e] = o.termCalls dialect e.2 := by
  have hKey : e.1.sameKey (.text o.termKey) = true := h
  simp [entryCalls_eq, Value.lookup?, Value.erase, hKey]

/-- The entry of a field by itself. -/
theorem entryCalls_of_not_isTerm {e : Value × Value} (h : ¬ o.IsTerm e) :
    o.entryCalls dialect [e] = Filter.entryCalls dialect o.externalId e.1 e.2 := by
  have hKey : e.1.sameKey (.text o.termKey) = false := Bool.eq_false_iff.mpr h
  simp [entryCalls_eq, Value.lookup?, Value.erase, hKey]

/-- The calls of a map: those of the search term, if it is looked for, and those of the fields. -/
theorem mem_entryCalls_iff_term_or_field {call : Call} :
    call ∈ o.entryCalls dialect entries ↔
      (∃ v, Value.lookup? (.text o.termKey) entries = some v ∧ call ∈ o.termCalls dialect v) ∨
        ∃ e ∈ entries, ¬ o.IsTerm e ∧ call ∈ Filter.entryCalls dialect o.externalId e.1 e.2 := by
  rw [entryCalls_eq, List.mem_append]
  refine or_congr ?_ ?_
  · cases Value.lookup? (.text o.termKey) entries with
    | none => simp
    | some v => simp
  · simp only [Value.erase, List.mem_flatMap, List.mem_filter, Bool.not_eq_true', and_assoc,
      IsTerm, Bool.not_eq_true]

theorem lookup?_eq_some_iff (hUnique : o.TermUnique entries) {v : Value} :
    Value.lookup? (.text o.termKey) entries = some v ↔ ∃ e ∈ entries, o.IsTerm e ∧ e.2 = v := by
  have hFound {e : Value × Value}
      (h : entries.find? (fun e => e.1.sameKey (.text o.termKey)) = some e) :
      e ∈ entries ∧ o.IsTerm e := by
    have hTerm := List.find?_some h
    exact ⟨List.mem_of_find?_eq_some h, hTerm⟩
  rw [Value.lookup?, Option.map_eq_some_iff]
  constructor
  · rintro ⟨e, hFind, rfl⟩
    exact ⟨e, (hFound hFind).1, (hFound hFind).2, rfl⟩
  · rintro ⟨e, hMem, hTerm, rfl⟩
    -- some entry is found, and it can only be this one
    cases hFind : entries.find? fun e => e.1.sameKey (.text o.termKey) with
    | none => exact absurd hTerm (List.find?_eq_none.mp hFind e hMem)
    | some e' =>
      have hEq : e' = e := hUnique e' (hFound hFind).1 e hMem (hFound hFind).2 hTerm
      exact ⟨e', rfl, by rw [hEq]⟩

/-- **The calls of a map are those of its entries**, each read by itself. -/
theorem mem_entryCalls_iff (hUnique : o.TermUnique entries) {call : Call} :
    call ∈ o.entryCalls dialect entries ↔ ∃ e ∈ entries, call ∈ o.entryCalls dialect [e] := by
  rw [mem_entryCalls_iff_term_or_field]
  constructor
  · rintro (⟨v, hLookup, hCall⟩ | ⟨e, hMem, hField, hCall⟩)
    · obtain ⟨e, hMem, hTerm, rfl⟩ := (lookup?_eq_some_iff hUnique).mp hLookup
      exact ⟨e, hMem, by rwa [entryCalls_of_isTerm hTerm]⟩
    · exact ⟨e, hMem, by rwa [entryCalls_of_not_isTerm hField]⟩
  · rintro ⟨e, hMem, hCall⟩
    by_cases hTerm : o.IsTerm e
    · rw [entryCalls_of_isTerm hTerm] at hCall
      exact Or.inl ⟨e.2, (lookup?_eq_some_iff hUnique).mpr ⟨e, hMem, hTerm, rfl⟩, hCall⟩
    · rw [entryCalls_of_not_isTerm hTerm] at hCall
      exact Or.inr ⟨e, hMem, hTerm, hCall⟩

/-- The calls of an entry on a field are those of its operators. -/
theorem mem_fieldCalls_iff {e : Value × Value} {path : FieldPath} (hField : ¬ o.IsTerm e)
    (hRead : FieldPath.read o.externalId e.1 = .ok path) {call : Call} :
    call ∈ o.entryCalls dialect [e] ↔
      ∃ p ∈ operatorEntries e.2, call ∈ operatorCalls dialect path p.1 p.2 := by
  rw [entryCalls_of_not_isTerm hField]
  simp only [Filter.entryCalls, hRead, List.mem_flatMap]

/-- The calls of an entry on a field are those of its operators, each in an entry by itself. -/
theorem mem_operatorEntry_iff {e : Value × Value} {path : FieldPath} (hField : ¬ o.IsTerm e)
    (hRead : FieldPath.read o.externalId e.1 = .ok path) {call : Call} :
    call ∈ o.entryCalls dialect [e] ↔
      ∃ p ∈ operatorEntries e.2, call ∈ o.entryCalls dialect [(e.1, .mapping [p])] := by
  have hSingle (p : Value × Value) : call ∈ o.entryCalls dialect [(e.1, .mapping [p])] ↔
      call ∈ operatorCalls dialect path p.1 p.2 := by
    rw [mem_fieldCalls_iff (e := (e.1, .mapping [p])) hField hRead]
    simp [operatorEntries, Value.entries?]
  rw [mem_fieldCalls_iff hField hRead]
  simp only [hSingle]

theorem isFilter_of_mem_calls {queryDialect : String} {filters : Value} :
    ∀ call ∈ o.calls queryDialect filters, call.isFilter = true := by
  intro call h
  unfold calls at h
  split at h
  · rw [List.mem_singleton.mp h]
    rfl
  · rcases mem_entryCalls_iff_term_or_field.mp h with ⟨v, -, hCall⟩ | ⟨e, -, -, hCall⟩
    · exact isFilter_of_mem_termCalls call hCall
    · exact isFilter_of_mem_entryCalls call hCall

end Options

end Filter

end Winnow
