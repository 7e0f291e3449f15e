import Winnow.Proofs.Filter.Entry
import Winnow.Proofs.Store.Chain

/-!
# Winnow.Proofs.Filter.Path — fields through relations select by chains of rows

An entry on a field through relations selects the rows from which a chain of related rows leads to
one that the same operator and argument select on the last model (`path_selects_chains`). So every
operator means there what it means on a column of its own table, whatever it consists of, and a row
that nothing is related to is never selected, not even by an operator that excludes values.

* `operatorCalls_of_operator`: which calls an operator makes is decided before relations are looked
  at; those that it makes then stand inside a scope for each relation.
* `operatorCalls_eq_nest`: an operator that asks for something on the column by itself makes the
  same calls in the innermost scope.
-/

namespace Winnow

namespace FieldPath

theorem read_eq_ok_iff {externalId : String} {key : Value} {path : FieldPath} :
    read externalId key = .ok path ↔
      (segments key.displayOrEmpty).any (·.isEmpty) = false ∧
        ofSegments externalId (segments key.displayOrEmpty) = path := by
  unfold read
  dsimp only
  cases (segments key.displayOrEmpty).any (·.isEmpty) with
  | true => simp
  | false =>
    rw [if_neg Bool.false_ne_true, Except.ok.injEq]
    exact (and_iff_right rfl).symm

/-- The parts of a key that spells a path through relations: `id` at its end stands for the column
of external identifiers. -/
theorem exists_segments_of_read {externalId : String} {key : Value} {path : FieldPath}
    (hRead : read externalId key = .ok path) (hRelations : path.relations ≠ []) :
    ∃ last, segments key.displayOrEmpty = path.relations ++ [last] ∧
      path.column = if last = "id" then externalId else last := by
  obtain ⟨-, hPath⟩ := read_eq_ok_iff.mp hRead
  rw [← hPath] at hRelations ⊢
  generalize segments key.displayOrEmpty = parts at hRelations ⊢
  have hParts : parts ≠ [] := by
    rintro rfl
    exact hRelations rfl
  have hDrop : parts.dropLast ≠ [] := hRelations
  refine ⟨parts.getLast hParts, ?_, ?_⟩
  · exact (List.dropLast_concat_getLast hParts).symm
  · simp [ofSegments, hDrop, List.getLast?_eq_some_getLast hParts]

end FieldPath

namespace Filter

/-! ## Calls of an operator -/

/-- Operators are read from their names. -/
theorem operatorOf_wireName (op : Operator) : operatorOf (.text op.wireName) = .ok op := by
  have hRead : Operator.read? (Value.text op.wireName).display = some op := by
    cases op <;> decide +kernel
  unfold operatorOf
  simp only [hRead]

theorem scopedCalls_eq_nest (dialect column : String) (op : Operator) (v : Value)
    (names : List String) :
    scopedCalls dialect column op v names = Call.nest names (leafCalls dialect column op v) := by
  induction names with
  | nil => rfl
  | cons name names ih => rw [scopedCalls, ih, Call.nest]

/-- The calls of a known operator: none if its argument is blank, unless it takes none; otherwise
those on the column, inside the scopes of the path. -/
theorem operatorCalls_of_operator {dialect : String} {path : FieldPath} {key v : Value}
    {op : Operator} (hOperator : operatorOf key = .ok op) :
    operatorCalls dialect path key v =
      if op ≠ .notNull ∧ v.isBlank = true then []
      else Call.nest path.relations (leafCalls dialect path.column op v) := by
  simp only [operatorCalls, hOperator, conditionCalls, scopedCalls_eq_nest, Bool.and_eq_true,
    bne_iff_ne]

/-- An operator that asks for something on the column by itself makes the same calls inside the
scopes of a path. -/
theorem operatorCalls_eq_nest {schema : Schema} {target : Model} {queryDialect dialect : String}
    {path : FieldPath} {key v : Value} {direct : Selection}
    (hDirect : (Selection.ofModel target queryDialect).callAll schema
      (operatorCalls dialect ⟨[], path.column⟩ key v) = (direct, none))
    (hAdds : direct.conditions ≠ []) :
    operatorCalls dialect path key v =
      Call.nest path.relations (operatorCalls dialect ⟨[], path.column⟩ key v) := by
  cases hOperator : operatorOf key with
  | error e =>
    -- an unknown operator is refused on the column, too
    simp only [operatorCalls, hOperator] at hDirect
    cases hDirect
  | ok op =>
    rw [operatorCalls_of_operator hOperator] at hDirect ⊢
    rw [operatorCalls_of_operator hOperator]
    by_cases hSkip : op ≠ .notNull ∧ v.isBlank = true
    · -- a blank argument is dropped, so that nothing would be asked for
      rw [if_pos hSkip] at hDirect
      cases hDirect
      exact absurd rfl hAdds
    · rw [if_neg hSkip, if_neg hSkip]
      rfl

/-- The calls of an entry on a field that has one operator. -/
theorem Options.entryCalls_of_operator {o : Options} {dialect : String} {e : Value × Value}
    {path : FieldPath} {key v : Value} (hField : ¬ o.IsTerm e)
    (hRead : FieldPath.read o.externalId e.1 = .ok path)
    (hOperators : operatorEntries e.2 = [(key, v)]) :
    o.entryCalls dialect [e] = operatorCalls dialect path key v := by
  rw [entryCalls_of_not_isTerm hField]
  simp [Filter.entryCalls, hRead, hOperators]

/-- The calls of a map of one entry, which has one operator. -/
theorem Options.calls_of_operator {o : Options} {dialect : String} {key argument name v : Value}
    {path : FieldPath} {op : Operator} (hEdits : o.edits = []) (hField : ¬ o.IsTerm (key, argument))
    (hRead : FieldPath.read o.externalId key = .ok path)
    (hOperators : operatorEntries argument = [(name, v)]) (hOperator : operatorOf name = .ok op) :
    o.calls dialect (.mapping [(key, argument)]) =
      if op ≠ .notNull ∧ v.isBlank = true then []
      else Call.nest path.relations (leafCalls (o.dialect?.getD dialect) path.column op v) := by
  rw [calls_mapping hEdits, entryCalls_of_operator hField hRead hOperators,
    operatorCalls_of_operator hOperator]

/-! ## Rows of an entry -/

/-- **Paths select by chains.** Let a key spell a path through relations that resolve, and let its
operator ask for something on the column by itself, on a query of the last model. Then the entry is
not refused, and selects exactly the rows from which a chain of related rows leads along the path to
one that the operator selects there. These are the rows that the store yields when it answers. No
row without a related row is among them. -/
theorem path_selects_chains (db : Database) (o : Options) (m target : Model) (dialect : String)
    (key argument operator v : Value) (path : FieldPath) (direct : Selection)
    (hEdits : o.edits = []) (hField : ¬ o.IsTerm (key, argument))
    (hRead : FieldPath.read o.externalId key = .ok path) (hRelations : path.relations ≠ [])
    (hFollow : db.schema.follow? m path.relations = some target)
    (hOperators : operatorEntries argument = [(operator, v)])
    (hDirect : (Selection.ofModel target dialect).callAll db.schema
      (operatorCalls (o.dialect?.getD dialect) ⟨[], path.column⟩ operator v) = (direct, none))
    (hAdds : direct.conditions ≠ []) :
    (∃ last, FieldPath.segments key.displayOrEmpty = path.relations ++ [last] ∧
      path.column = if last = "id" then o.externalId else last) ∧
    ∃ s, (Selection.ofModel m dialect).callAll db.schema
        (o.calls dialect (.mapping [(key, argument)])) = (s, none) ∧
      (∀ r, r ∈ s.matching db ↔ r ∈ db.rows m ∧
        ∃ x, db.Chain m r path.relations target x ∧ x ∈ direct.matching db) ∧
      (∀ rows, s.all db = .ok rows → ∀ r, r ∈ rows ↔ r ∈ db.rows m ∧
        ∃ x, db.Chain m r path.relations target x ∧ x ∈ direct.matching db) ∧
      ∀ name names rel next r, path.relations = name :: names → m.relation? name = some rel →
        db.schema.model? rel.target = some next → db.relatedRows rel next r = [] →
          r ∉ s.matching db := by
  refine ⟨FieldPath.exists_segments_of_read hRead hRelations, ?_⟩
  obtain ⟨s, h, hMatching⟩ :=
    Selection.matching_nest (m := m) hFollow isFilter_of_mem_operatorCalls hDirect
  have hCalls : o.calls dialect (.mapping [(key, argument)]) =
      Call.nest path.relations
        (operatorCalls (o.dialect?.getD dialect) ⟨[], path.column⟩ operator v) := by
    rw [Options.calls_mapping hEdits, Options.entryCalls_of_operator hField hRead hOperators,
      operatorCalls_eq_nest hDirect hAdds]
  rw [← hCalls] at h
  refine ⟨s, h, hMatching, ?_, ?_⟩
  · intro rows hRows r
    have hCap : s.cap = none := Selection.cap_of_callAll Options.isFilter_of_mem_calls rfl h
    rw [Selection.mem_all_iff hCap hRows, hMatching]
  · intro name names rel next r hPath hRelation hNext hNone hMem
    obtain ⟨-, x, hChain, -⟩ := (hMatching r).mp hMem
    rw [hPath, Database.chain_cons_iff hRelation hNext, hNone] at hChain
    obtain ⟨y, hRelated, -⟩ := hChain
    cases hRelated

/-- The products of the shop after a filter map. -/
def productsAfter (entries : List (Value × Value)) : Selection × Option Error :=
  (Selection.ofModel Sample.product "sqlite").callAll Sample.shop.schema
    (Options.default.calls "sqlite" (.mapping entries))

/-- The products of the shop that have more than 10 pieces, or no number of pieces. -/
def wellStocked : Selection × Option Error :=
  (Selection.ofModel Sample.product "sqlite").callAll Sample.shop.schema
    (operatorCalls "sqlite" ⟨[], "stock"⟩ (.text "gtn") (.text "10"))

/-- The same, asked of the products of the category of a product: a path that comes back to the
model it begins with. -/
def siblingEntry : Value × Value :=
  (.text "Category.products.stock", .mapping [(.text "gtn", .text "10")])

/-- The products in whose category some product is well stocked. Two products have no category; by
itself one of them is well stocked. -/
theorem path_selects_chains_siblingEntry :
    ∃ direct s, wellStocked = (direct, none) ∧ productsAfter [siblingEntry] = (s, none) ∧
      (direct.matching Sample.shop).map (·.key) = [1, 3, 4, 5, 9] ∧
      (s.matching Sample.shop).map (·.key) = [1, 2, 3, 4, 6, 9] ∧
      ∀ r, r ∈ s.matching Sample.shop ↔ r ∈ Sample.shop.rows Sample.product ∧
        ∃ x, Sample.shop.Chain Sample.product r ["category", "products"] Sample.product x ∧
          x ∈ direct.matching Sample.shop := by
  have hRead : FieldPath.read Options.default.externalId siblingEntry.1 =
      .ok ⟨["category", "products"], "stock"⟩ :=
    FieldPath.read_eq_ok_iff.mpr (by decide)
  have hDirect : wellStocked = (wellStocked.1, none) :=
    Selection.eq_of_snd_eq_none (Option.isNone_iff_eq_none.mp (by decide))
  have hAdds : wellStocked.1.conditions ≠ [] := List.isEmpty_eq_false_iff.mp (by decide)
  have hKeys : ((productsAfter [siblingEntry]).1.matching Sample.shop).map (·.key) =
      [1, 2, 3, 4, 6, 9] := by decide +kernel
  obtain ⟨-, s, h, hMatching, -⟩ := path_selects_chains Sample.shop Options.default Sample.product
    Sample.product "sqlite" siblingEntry.1 siblingEntry.2 (.text "gtn") (.text "10")
    ⟨["category", "products"], "stock"⟩ _ rfl (by decide) hRead (by decide) rfl rfl hDirect
    hAdds
  have hRun : productsAfter [siblingEntry] = (s, none) := h
  rw [hRun] at hKeys
  exact ⟨_, s, hDirect, hRun, by decide, hKeys, hMatching⟩

end Filter

end Winnow
