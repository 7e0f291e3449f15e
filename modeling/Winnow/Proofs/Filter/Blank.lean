import Winnow.Proofs.Filter.Path

/-!
# Winnow.Proofs.Filter.Blank — arguments that carry no value

An argument may carry no value in three ways: it is blank as a whole, it is a list of blanks for an
operator that takes several values, or each key of a document is sought with such a list
(`saysNothing`). On a column of the own table none of these asks for anything.

On a field through relations only the first is so. A blank argument is dropped before the path is
followed; a list of blanks is found to be empty at its end, when the scopes of the relations are
open, and a scope without calls asks for a related row. `saysNothing_keeps_rows_iff` says exactly
what becomes of the rows: those are lost from which no chain of related rows leads along the path,
and the rows are the same exactly if there are no such rows among them.

* `operatorCalls_of_saysNothing`: the calls of such an operator are the empty scopes, or none.
* `Options.Adds`: a map with operators added, in an entry of their own or in one that is there.
* `Options.Adds.mem_entryCalls_iff`: the calls of the larger map are those of the smaller one and
  those of the operators that were added.
-/

namespace Winnow.Filter

/-! ## Arguments without a value -/

/-- Does the argument consist of blanks where the operator takes several values? -/
def consistsOfBlanks : Operator → Value → Bool
  | .among, v => v.splitList.isEmpty
  | .notAmong, v => v.splitList.isEmpty
  | .json, v => match v.entries? with
    | some entries => entries.all fun e => e.2.splitList.isEmpty
    | none => false
  | _, _ => false

/-- Does the argument carry no value for the operator? -/
def saysNothing (op : Operator) (v : Value) : Bool := v.isBlank || consistsOfBlanks op v

theorem leafCalls_of_consistsOfBlanks {dialect column : String} {op : Operator} {v : Value}
    (h : consistsOfBlanks op v = true) : leafCalls dialect column op v = [] := by
  cases op with
  | among | notAmong =>
    have hItems : v.splitList = [] := List.isEmpty_iff.mp h
    simp only [leafCalls, hItems]
  | json =>
    cases hEntries : v.entries? with
    | none => simp [consistsOfBlanks, hEntries] at h
    | some entries =>
      simp only [consistsOfBlanks, hEntries, List.all_eq_true] at h
      simp only [leafCalls, hEntries, List.filterMap_eq_nil_iff]
      intro e he
      have hItems : e.2.splitList = [] := List.isEmpty_iff.mp (h e he)
      simp only [documentCall?, hItems]
  | _ => cases h

/-- An operator whose argument carries no value opens the scopes of the path and leaves them empty,
unless its argument is blank. -/
theorem operatorCalls_of_saysNothing {dialect : String} {path : FieldPath} {key v : Value}
    {op : Operator} (hOperator : operatorOf key = .ok op) (hTakes : op ≠ .notNull)
    (hNothing : saysNothing op v = true) :
    operatorCalls dialect path key v =
      if v.isBlank = true then [] else Call.nest path.relations [] := by
  rw [operatorCalls_of_operator hOperator]
  by_cases hBlank : v.isBlank = true
  · rw [if_pos ⟨hTakes, hBlank⟩, if_pos hBlank]
  · have hItems : consistsOfBlanks op v = true := by simpa [saysNothing, hBlank] using hNothing
    rw [if_neg (fun h => hBlank h.2), if_neg hBlank, leafCalls_of_consistsOfBlanks hItems]

/-- The key names an operator that takes an argument, and the argument carries no value for it. -/
def IsIdle (p : Value × Value) : Prop :=
  ∃ op, operatorOf p.1 = .ok op ∧ op ≠ .notNull ∧ saysNothing op p.2 = true

section Idle

variable {db : Database} {dialect queryDialect : String} {m target : Model} {path : FieldPath}
  {p : Value × Value}

/-- Idle operators are not refused where the relations of the path resolve. -/
theorem IsIdle.exists_ofCall? (h : IsIdle p)
    (hFollow : db.schema.follow? m path.relations = some target) :
    ∀ call ∈ operatorCalls dialect path p.1 p.2,
      ∃ added, Condition.ofCall? db.schema queryDialect m call = .ok added := by
  obtain ⟨op, hOperator, hTakes, hNothing⟩ := h
  rw [operatorCalls_of_saysNothing hOperator hTakes hNothing]
  by_cases hBlank : p.2.isBlank = true
  · rw [if_pos hBlank]
    intro call hCall
    cases hCall
  · rw [if_neg hBlank, ← Condition.exists_ofCalls_iff, Condition.exists_ofCalls_nest_iff hFollow]
    exact ⟨[], rfl⟩

/-- What an idle operator asks of a row: nothing if its argument is blank, otherwise a chain along
the path. -/
theorem IsIdle.holds_iff (h : IsIdle p)
    (hFollow : db.schema.follow? m path.relations = some target) (r : Row) :
    (∀ call ∈ operatorCalls dialect path p.1 p.2, call.isEffective = true →
        Call.Holds db queryDialect m r call) ↔
      p.2.isBlank = true ∨ ∃ x, db.Chain m r path.relations target x := by
  obtain ⟨op, hOperator, hTakes, hNothing⟩ := h
  rw [operatorCalls_of_saysNothing hOperator hTakes hNothing]
  by_cases hBlank : p.2.isBlank = true
  · simp [hBlank]
  · rw [if_neg hBlank, Call.nest_holds_iff hFollow]
    simp [hBlank]

end Idle

/-! ## Larger maps -/

namespace Options

variable {o : Options} {dialect : String} {key : Value} {added entries entries' : List (Value × Value)}
  {path : FieldPath}

/-- The second map is the first one with operators added under a key: in an entry of their own, or
among the operators of an entry. -/
inductive Adds (key : Value) (added : List (Value × Value)) :
    List (Value × Value) → List (Value × Value) → Prop
  | entry {before after : List (Value × Value)} {argument : Value} :
      operatorEntries argument = added →
      Adds key added (before ++ after) (before ++ (key, argument) :: after)
  | operators {before after ops ops' : List (Value × Value)} :
      Adds key added (before ++ (key, .mapping (ops ++ ops')) :: after)
        (before ++ (key, .mapping (ops ++ added ++ ops')) :: after)

theorem Adds.termUnique (h : Adds key added entries entries')
    (hField : ∀ argument, ¬ o.IsTerm (key, argument)) (hUnique : o.TermUnique entries') :
    o.TermUnique entries := by
  -- the entry of the search term is not the one under the key, so it stands in both maps
  have hOld {a : Value × Value} (ha : a ∈ entries) (hTerm : o.IsTerm a) : a ∈ entries' := by
    cases h with
    | entry _ =>
      rcases List.mem_append.mp ha with ha | ha
      · exact List.mem_append_left _ ha
      · exact List.mem_append_right _ (List.mem_cons_of_mem _ ha)
    | operators =>
      rcases List.mem_append.mp ha with ha | ha
      · exact List.mem_append_left _ ha
      · cases ha with
        | head => exact absurd hTerm (hField _)
        | tail _ ha => exact List.mem_append_right _ (List.mem_cons_of_mem _ ha)
  exact fun a ha b hb hTermA hTermB =>
    hUnique a (hOld ha hTermA) b (hOld hb hTermB) hTermA hTermB

/-- **The calls of a larger map** are those of the smaller one and those of what was added. -/
theorem Adds.mem_entryCalls_iff (h : Adds key added entries entries')
    (hField : ∀ argument, ¬ o.IsTerm (key, argument)) (hUnique : o.TermUnique entries')
    (hRead : FieldPath.read o.externalId key = .ok path) {call : Call} :
    call ∈ o.entryCalls dialect entries' ↔ call ∈ o.entryCalls dialect entries ∨
      ∃ p ∈ added, call ∈ operatorCalls dialect path p.1 p.2 := by
  rw [Options.mem_entryCalls_iff hUnique, Options.mem_entryCalls_iff (h.termUnique hField hUnique)]
  cases h with
  | @entry before after argument hAdded =>
    have hEntry : call ∈ o.entryCalls dialect [(key, argument)] ↔
        ∃ p ∈ operatorEntries argument, call ∈ operatorCalls dialect path p.1 p.2 :=
      mem_fieldCalls_iff (hField argument) hRead
    rw [hAdded] at hEntry
    simp only [List.mem_append, List.mem_cons, or_and_right, exists_or, exists_eq_left, hEntry]
    rw [or_assoc, or_comm (a := ∃ p, p ∈ added ∧ _)]
  | @operators before after ops ops' =>
    have hEntry (ops : List (Value × Value)) :
        call ∈ o.entryCalls dialect [(key, .mapping ops)] ↔
          ∃ p ∈ ops, call ∈ operatorCalls dialect path p.1 p.2 :=
      mem_fieldCalls_iff (e := (key, .mapping ops)) (hField _) hRead
    simp only [List.mem_append, List.mem_cons, or_and_right, exists_or, exists_eq_left, hEntry]
    grind

end Options

/-! ## Rows of a larger map -/

section Run

variable {db : Database} {o : Options} {s s₁ s₂ : Selection} {target : Model} {key : Value}
  {added entries entries' : List (Value × Value)} {path : FieldPath}

/-- Idle operators do not change whether a map is refused. -/
theorem succeeds_iff_of_adds (hEdits : o.edits = []) (hUnique : o.TermUnique entries')
    (hCap : s.cap = none) (hField : ∀ argument, ¬ o.IsTerm (key, argument))
    (hRead : FieldPath.read o.externalId key = .ok path)
    (hFollow : db.schema.follow? s.model path.relations = some target)
    (hAdds : Options.Adds key added entries entries') (hIdle : ∀ p ∈ added, IsIdle p) :
    (s.callAll db.schema (o.calls s.dialect (.mapping entries'))).2 = none ↔
      (s.callAll db.schema (o.calls s.dialect (.mapping entries))).2 = none := by
  rw [Selection.callAll_succeeds_iff Options.isFilter_of_mem_calls hCap,
    Selection.callAll_succeeds_iff Options.isFilter_of_mem_calls hCap]
  simp only [Options.calls_mapping hEdits, hAdds.mem_entryCalls_iff hField hUnique hRead]
  constructor
  · intro h call hCall
    exact h call (Or.inl hCall)
  · rintro h call (hCall | ⟨p, hp, hCall⟩)
    · exact h call hCall
    · exact (hIdle p hp).exists_ofCall? hFollow call hCall

/-- Idle operators keep the rows from which a chain leads along their path; if their arguments are
all blank, they keep every row. -/
theorem mem_matching_iff_of_adds (hEdits : o.edits = []) (hUnique : o.TermUnique entries')
    (hCap : s.cap = none) (hField : ∀ argument, ¬ o.IsTerm (key, argument))
    (hRead : FieldPath.read o.externalId key = .ok path)
    (hFollow : db.schema.follow? s.model path.relations = some target)
    (hAdds : Options.Adds key added entries entries') (hIdle : ∀ p ∈ added, IsIdle p)
    (h₁ : s.callAll db.schema (o.calls s.dialect (.mapping entries)) = (s₁, none))
    (h₂ : s.callAll db.schema (o.calls s.dialect (.mapping entries')) = (s₂, none)) (r : Row) :
    r ∈ s₂.matching db ↔ r ∈ s₁.matching db ∧ ((∀ p ∈ added, p.2.isBlank = true) ∨
      ∃ x, db.Chain s.model r path.relations target x) := by
  rw [Selection.mem_matching_callAll_iff Options.isFilter_of_mem_calls hCap h₁,
    Selection.mem_matching_callAll_iff Options.isFilter_of_mem_calls hCap h₂, and_assoc]
  refine and_congr_right fun _ => ?_
  simp only [Options.calls_mapping hEdits, hAdds.mem_entryCalls_iff hField hUnique hRead]
  have hAdded : (∀ p ∈ added,
      ∀ call ∈ operatorCalls (o.dialect?.getD s.dialect) path p.1 p.2, call.isEffective = true →
        Call.Holds db s.dialect s.model r call) ↔
      (∀ p ∈ added, p.2.isBlank = true) ∨ ∃ x, db.Chain s.model r path.relations target x := by
    -- all the operators stand on one path, so one chain serves them all
    by_cases hChain : ∃ x, db.Chain s.model r path.relations target x
    · refine iff_of_true ?_ (Or.inr hChain)
      intro p hp
      exact ((hIdle p hp).holds_iff hFollow r).mpr (Or.inr hChain)
    · rw [or_iff_left hChain]
      refine forall_congr' fun p => forall_congr' fun hp => ?_
      rw [(hIdle p hp).holds_iff hFollow r, or_iff_left hChain]
  rw [← hAdded]
  constructor
  · intro hAll
    exact ⟨fun call hCall => hAll call (Or.inl hCall),
      fun p hp call hCall => hAll call (Or.inr ⟨p, hp, hCall⟩)⟩
  · rintro ⟨hOld, hNew⟩ call (hCall | ⟨p, hp, hCall⟩)
    · exact hOld call hCall
    · exact hNew p hp call hCall

end Run

/-- **What arguments without a value do to the rows.** Add operators to a map, on a field that is
not the search term and whose relations resolve, each with an argument that carries no value for it.
The larger map is refused exactly if the smaller one is.

Otherwise it selects those of the rows from which a chain of related rows leads along the path, and
if all the arguments are blank it selects all of them. So the same rows are selected if the path
leads through no relation or the arguments are blank, and otherwise exactly if none of the rows is
without such a chain. -/
theorem saysNothing_keeps_rows_iff (db : Database) (o : Options) (s : Selection) (target : Model)
    (key : Value) (added entries entries' : List (Value × Value)) (path : FieldPath)
    (hEdits : o.edits = []) (hKeys : Value.DistinctKeys entries') (hCap : s.cap = none)
    (hField : ∀ argument, ¬ o.IsTerm (key, argument))
    (hRead : FieldPath.read o.externalId key = .ok path)
    (hFollow : db.schema.follow? s.model path.relations = some target)
    (hAdds : Options.Adds key added entries entries') (hIdle : ∀ p ∈ added, IsIdle p) :
    ((s.callAll db.schema (o.calls s.dialect (.mapping entries'))).2 = none ↔
      (s.callAll db.schema (o.calls s.dialect (.mapping entries))).2 = none) ∧
    ∀ s₁ s₂, s.callAll db.schema (o.calls s.dialect (.mapping entries)) = (s₁, none) →
      s.callAll db.schema (o.calls s.dialect (.mapping entries')) = (s₂, none) →
      (∀ r, r ∈ s₂.matching db ↔ r ∈ s₁.matching db ∧ ((∀ p ∈ added, p.2.isBlank = true) ∨
        ∃ x, db.Chain s.model r path.relations target x)) ∧
      (s₂.matching db = s₁.matching db ↔
        path.relations = [] ∨ (∀ p ∈ added, p.2.isBlank = true) ∨
          ∀ r ∈ s₁.matching db, ∃ x, db.Chain s.model r path.relations target x) ∧
      ∀ rows₁ rows₂, s₁.all db = .ok rows₁ → s₂.all db = .ok rows₂ →
        (rows₂ = rows₁ ↔ s₂.matching db = s₁.matching db) := by
  have hUnique : o.TermUnique entries' := Options.termUnique_of_distinctKeys hKeys
  refine ⟨succeeds_iff_of_adds hEdits hUnique hCap hField hRead hFollow hAdds hIdle, ?_⟩
  intro s₁ s₂ h₁ h₂
  have hMem := mem_matching_iff_of_adds hEdits hUnique hCap hField hRead hFollow hAdds hIdle h₁ h₂
  refine ⟨hMem, ?_, ?_⟩
  · rw [Selection.matching_eq_iff_of_callAll hCap Options.isFilter_of_mem_calls
      Options.isFilter_of_mem_calls h₂ h₁]
    constructor
    · intro hSame
      by_cases hBlank : ∀ p ∈ added, p.2.isBlank = true
      · exact Or.inr (Or.inl hBlank)
      · refine Or.inr (Or.inr fun r hr => ?_)
        exact ((hMem r).mp ((hSame r).mpr hr)).2.resolve_left hBlank
    · rintro (hDirect | hBlank | hChain) r
      · -- without relations the chain is the row itself
        rw [hMem, and_iff_left]
        rw [hDirect] at hFollow ⊢
        obtain rfl : s.model = target := Option.some.inj hFollow
        exact Or.inr ⟨r, .here⟩
      · rw [hMem, and_iff_left (Or.inl hBlank)]
      · rw [hMem]
        exact and_iff_left_of_imp fun hr => Or.inr (hChain r hr)
  · intro rows₁ rows₂ hRows₁ hRows₂
    exact Selection.rows_eq_iff_of_callAll hCap Options.isFilter_of_mem_calls
      Options.isFilter_of_mem_calls h₂ h₁ hRows₂ hRows₁

/-- A field of the category, with a list of blanks for an operator that takes several values. -/
def blankItems : Value × Value :=
  (.text "category.name", .mapping [(.text "in", .text " , ")])

/-- The active products. -/
def activeMap : List (Value × Value) :=
  [(.text "status", .mapping [(.text "eq", .text "active")])]

theorem isIdle_blankItems : IsIdle (.text "in", .text " , ") :=
  ⟨.among, operatorOf_wireName .among, by decide, by decide⟩

/-- Of the active products one is lost that has no category. -/
theorem saysNothing_keeps_rows_iff_activeMap :
    ∃ s₁ s₂, productsAfter activeMap = (s₁, none) ∧
      productsAfter (activeMap ++ [blankItems]) = (s₂, none) ∧
      (s₁.matching Sample.shop).map (·.key) = [1, 2, 4, 5, 9] ∧
      (s₂.matching Sample.shop).map (·.key) = [1, 2, 4, 9] ∧
      ∀ r, r ∈ s₂.matching Sample.shop ↔ r ∈ s₁.matching Sample.shop ∧
        ∃ x, Sample.shop.Chain Sample.product r ["category"] Sample.category x := by
  have hRead : FieldPath.read Options.default.externalId blankItems.1 =
      .ok ⟨["category"], "name"⟩ :=
    FieldPath.read_eq_ok_iff.mpr (by decide)
  have hTerm : ∀ argument, ¬ Options.default.IsTerm (blankItems.1, argument) := by
    intro argument h
    have hKey : blankItems.1.sameKey (.text Options.default.termKey) = false := by decide
    rw [Options.IsTerm, hKey] at h
    cases h
  have hAdds : Options.Adds blankItems.1 [(.text "in", .text " , ")] activeMap
      (activeMap ++ [blankItems]) := @Options.Adds.entry _ _ activeMap [] _ rfl
  obtain ⟨hRefused, hRows⟩ := saysNothing_keeps_rows_iff Sample.shop Options.default
    (Selection.ofModel Sample.product "sqlite") Sample.category blankItems.1
    [(.text "in", .text " , ")] activeMap (activeMap ++ [blankItems]) _ rfl (by decide) rfl
    hTerm hRead (by decide) hAdds (List.forall_mem_singleton.mpr isIdle_blankItems)
  have hOk : (productsAfter activeMap).2 = none :=
    Option.isNone_iff_eq_none.mp (by decide)
  have h₁ : productsAfter activeMap = ((productsAfter activeMap).1, none) :=
    Selection.eq_of_snd_eq_none hOk
  have h₂ : productsAfter (activeMap ++ [blankItems]) =
      ((productsAfter (activeMap ++ [blankItems])).1, none) :=
    Selection.eq_of_snd_eq_none (hRefused.mpr hOk)
  refine ⟨_, _, h₁, h₂, by decide, by decide +kernel, ?_⟩
  intro r
  refine ((hRows _ _ h₁ h₂).1 r).trans (and_congr_right fun _ => or_iff_right ?_)
  -- the argument is not blank as a whole
  intro hBlank
  have hItems := hBlank _ (List.mem_singleton.mpr rfl)
  revert hItems
  decide

/-- **A list of blanks is not always skipped.** On a column of the products it is; on a column of
their categories it loses the products without a category. -/
theorem blankItems_lose_rows :
    IsIdle (.text "in", .text " , ") ∧
    Options.Adds blankItems.1 [(.text "in", .text " , ")] [] [blankItems] ∧
    ∃ s₁ s₂ s₃, productsAfter [] = (s₁, none) ∧ productsAfter [blankItems] = (s₂, none) ∧
      productsAfter [(.text "status", .mapping [(.text "in", .text " , ")])] = (s₃, none) ∧
      (s₁.matching Sample.shop).map (·.key) = [1, 2, 3, 4, 5, 6, 7, 8, 9] ∧
      (s₂.matching Sample.shop).map (·.key) = [1, 2, 3, 4, 6, 7, 9] ∧
      (s₃.matching Sample.shop).map (·.key) = [1, 2, 3, 4, 5, 6, 7, 8, 9] ∧
      s₂.matching Sample.shop ≠ s₁.matching Sample.shop := by
  have hOk (entries : List (Value × Value)) (h : (productsAfter entries).2.isNone = true) :
      productsAfter entries = ((productsAfter entries).1, none) :=
    Selection.eq_of_snd_eq_none (Option.isNone_iff_eq_none.mp h)
  have hKeys₁ : ((productsAfter []).1.matching Sample.shop).map (·.key) =
      [1, 2, 3, 4, 5, 6, 7, 8, 9] := by decide
  have hKeys₂ : ((productsAfter [blankItems]).1.matching Sample.shop).map (·.key) =
      [1, 2, 3, 4, 6, 7, 9] := by decide +kernel
  refine ⟨isIdle_blankItems, @Options.Adds.entry _ _ [] [] _ rfl, _, _, _,
    hOk _ (by decide), hOk _ (by decide +kernel), hOk _ (by decide), hKeys₁, hKeys₂,
    by decide, ?_⟩
  intro hSame
  rw [hSame, hKeys₁] at hKeys₂
  cases hKeys₂

end Winnow.Filter
