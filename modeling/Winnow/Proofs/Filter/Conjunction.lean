import Winnow.Proofs.Filter.Entry
import Winnow.Proofs.Store.Faultless
import Winnow.Proofs.Store.Scope

/-!
# Winnow.Proofs.Filter.Conjunction — a map selects what each of its entries selects

All entries of a filter map must hold, on top of whatever the query asks for already. So no map can
show rows outside the scope that a resource declares, and it does not matter in which order the
entries stand.

* `Options.singles` are the single entries of a map: one for each operator of a field, and the entry
  of the search term. `Options.alone` is what one of them selects on a query of its own.
* `Options.Reordered`: two maps that differ in the order of entries and of operators. What stands
  under the search term is no mapping from operators, and stays.
* `filters_intersect`: the rows after a map are those before it that each single entry selects
  alone; and a reordered map is refused if this one is, and otherwise selects the same rows.

The induction over the map is in `Options.mem_entryCalls_iff`, that over groups and scopes in
`Call.isExact`. What is left is that a row is kept by a run of calls exactly if it is kept by each
call, whatever run it stands in.
-/

namespace Winnow.Filter

namespace Options

variable {o : Options} {dialect : String} {entries entries' : List (Value × Value)}

/-! ## Single entries -/

/-- The single entries of a map: for a field one entry for each operator, and the entry of the
search term as it is. -/
def singles (o : Options) (entries : List (Value × Value)) : List (Value × Value) :=
  entries.flatMap fun e =>
    if o.IsTerm e then [e] else (operatorEntries e.2).map fun p => (e.1, .mapping [p])

/-- What one entry selects by itself, on a query of the model of `s` that asks for nothing yet. -/
def alone (o : Options) (schema : Schema) (s : Selection) (e : Value × Value) :
    Selection × Option Error :=
  (Selection.ofModel s.model s.dialect).callAll schema (o.calls s.dialect (.mapping [e]))

theorem mem_singles_iff {e : Value × Value} :
    e ∈ o.singles entries ↔ (e ∈ entries ∧ o.IsTerm e) ∨
      ∃ field ∈ entries, ¬ o.IsTerm field ∧ ∃ p ∈ operatorEntries field.2,
        e = (field.1, .mapping [p]) := by
  simp only [singles, List.mem_flatMap]
  constructor
  · rintro ⟨a, hMem, he⟩
    by_cases hTerm : o.IsTerm a
    · rw [if_pos hTerm, List.mem_singleton] at he
      exact Or.inl ⟨he ▸ hMem, he ▸ hTerm⟩
    · rw [if_neg hTerm, List.mem_map] at he
      obtain ⟨p, hp, rfl⟩ := he
      exact Or.inr ⟨a, hMem, hTerm, p, hp, rfl⟩
  · rintro (⟨hMem, hTerm⟩ | ⟨a, hMem, hTerm, p, hp, rfl⟩)
    · exact ⟨e, hMem, by rw [if_pos hTerm]; exact List.mem_singleton.mpr rfl⟩
    · exact ⟨a, hMem, by rw [if_neg hTerm]; exact List.mem_map.mpr ⟨p, hp, rfl⟩⟩

/-- A field whose key spells no path breaks off, with all operators and with one. -/
theorem entryCalls_of_read_error {e : Value × Value} {error : Error} (hField : ¬ o.IsTerm e)
    (hRead : FieldPath.read o.externalId e.1 = .error error) :
    o.entryCalls dialect [e] = [.fail error] := by
  simp only [entryCalls_of_not_isTerm hField, Filter.entryCalls, hRead]

/-- What a single entry calls, the map calls. -/
theorem mem_entryCalls_of_single (hUnique : o.TermUnique entries) {e : Value × Value}
    (he : e ∈ o.singles entries) {call : Call} (hCall : call ∈ o.entryCalls dialect [e]) :
    call ∈ o.entryCalls dialect entries := by
  rw [mem_entryCalls_iff hUnique]
  rcases mem_singles_iff.mp he with ⟨hMem, -⟩ | ⟨field, hMem, hField, p, hp, rfl⟩
  · exact ⟨e, hMem, hCall⟩
  · refine ⟨field, hMem, ?_⟩
    cases hRead : FieldPath.read o.externalId field.1 with
    | error error =>
      rw [entryCalls_of_read_error (e := (field.1, .mapping [p])) hField hRead] at hCall
      rwa [entryCalls_of_read_error hField hRead]
    | ok path => exact (mem_operatorEntry_iff hField hRead).mpr ⟨p, hp, hCall⟩

/-- What the map calls, one of its single entries calls, unless a key spells no path. -/
theorem exists_single_of_mem_entryCalls (hUnique : o.TermUnique entries) {call : Call}
    (hCall : call ∈ o.entryCalls dialect entries) :
    (∃ e ∈ o.singles entries, call ∈ o.entryCalls dialect [e]) ∨ ∃ error, call = .fail error := by
  obtain ⟨e, hMem, hCall⟩ := (mem_entryCalls_iff hUnique).mp hCall
  by_cases hTerm : o.IsTerm e
  · exact Or.inl ⟨e, mem_singles_iff.mpr (Or.inl ⟨hMem, hTerm⟩), hCall⟩
  · cases hRead : FieldPath.read o.externalId e.1 with
    | error error =>
      rw [entryCalls_of_read_error hTerm hRead, List.mem_singleton] at hCall
      exact Or.inr ⟨error, hCall⟩
    | ok path =>
      obtain ⟨p, hp, hCall⟩ := (mem_operatorEntry_iff hTerm hRead).mp hCall
      exact Or.inl ⟨_, mem_singles_iff.mpr (Or.inr ⟨e, hMem, hTerm, p, hp, rfl⟩), hCall⟩

/-! ## Reordered maps -/

/-- The second map is the first one with its entries, or operators in an entry of a field, in
another order. -/
inductive Reordered (o : Options) : List (Value × Value) → List (Value × Value) → Prop
  | entries {es es' : List (Value × Value)} : es.Perm es' → Reordered o es es'
  | operators {before after : List (Value × Value)} {key : Value} {ops ops' : List (Value × Value)} :
      ¬ o.IsTerm (key, .mapping ops) → ops.Perm ops' →
      Reordered o (before ++ (key, .mapping ops) :: after) (before ++ (key, .mapping ops') :: after)
  | trans {es es' es'' : List (Value × Value)} :
      Reordered o es es' → Reordered o es' es'' → Reordered o es es''

/-- In another order the operators of a field call the same. -/
theorem mem_entryCalls_operators {key : Value} {ops ops' : List (Value × Value)}
    (hField : ¬ o.IsTerm (key, .mapping ops)) (hPerm : ops.Perm ops') {call : Call} :
    call ∈ o.entryCalls dialect [(key, .mapping ops)] ↔
      call ∈ o.entryCalls dialect [(key, .mapping ops')] := by
  rw [entryCalls_of_not_isTerm hField,
    entryCalls_of_not_isTerm (e := (key, .mapping ops')) hField]
  simp only [Filter.entryCalls]
  cases FieldPath.read o.externalId key with
  | error error => rfl
  | ok path =>
    simp only [operatorEntries, Value.entries?, List.mem_flatMap]
    exact exists_congr fun p => and_congr_left fun _ => hPerm.mem_iff

/-- A reordered map has the same calls, in some order. -/
theorem Reordered.mem_entryCalls_iff (h : o.Reordered entries entries') :
    o.TermUnique entries → o.TermUnique entries' ∧ ∀ call,
      call ∈ o.entryCalls dialect entries ↔ call ∈ o.entryCalls dialect entries' := by
  induction h with
  | entries hPerm =>
    intro hUnique
    have hUnique' : o.TermUnique _ := fun a ha b hb =>
      hUnique a (hPerm.mem_iff.mpr ha) b (hPerm.mem_iff.mpr hb)
    refine ⟨hUnique', fun call => ?_⟩
    rw [Options.mem_entryCalls_iff hUnique, Options.mem_entryCalls_iff hUnique']
    exact exists_congr fun e => and_congr_left fun _ => hPerm.mem_iff
  | @operators before after key ops ops' hField hPerm =>
    intro hUnique
    -- the entry of the search term, if there is one, is one of the others
    have hOld {a : Value × Value} (ha : a ∈ before ++ (key, .mapping ops') :: after)
        (hTerm : o.IsTerm a) : a ∈ before ++ (key, .mapping ops) :: after := by
      simp only [List.mem_append, List.mem_cons] at ha ⊢
      rcases ha with ha | rfl | ha
      · exact Or.inl ha
      · exact absurd hTerm hField
      · exact Or.inr (Or.inr ha)
    have hUnique' : o.TermUnique (before ++ (key, .mapping ops') :: after) :=
      fun a ha b hb hTermA hTermB =>
        hUnique a (hOld ha hTermA) b (hOld hb hTermB) hTermA hTermB
    refine ⟨hUnique', fun call => ?_⟩
    rw [Options.mem_entryCalls_iff hUnique, Options.mem_entryCalls_iff hUnique']
    simp only [List.mem_append, List.mem_cons, or_and_right, exists_or, exists_eq_left]
    rw [mem_entryCalls_operators hField hPerm]
  | trans _ _ ih ih' =>
    intro hUnique
    obtain ⟨hUnique', hCalls⟩ := ih hUnique
    obtain ⟨hUnique'', hCalls'⟩ := ih' hUnique'
    exact ⟨hUnique'', fun call => (hCalls call).trans (hCalls' call)⟩

end Options

/-! ## Runs of a map -/

section Run

variable {db : Database} {o : Options} {s s' t : Selection} {entries entries' : List (Value × Value)}

/-- If a map is not refused, none of its single entries is. -/
theorem alone_succeeds (hEdits : o.edits = []) (hUnique : o.TermUnique entries)
    (hCap : s.cap = none)
    (h : (s.callAll db.schema (o.calls s.dialect (.mapping entries))).2 = none)
    {e : Value × Value} (he : e ∈ o.singles entries) :
    (o.alone db.schema s e).2 = none := by
  rw [Selection.callAll_succeeds_iff Options.isFilter_of_mem_calls hCap] at h
  rw [Options.alone, Selection.callAll_succeeds_iff Options.isFilter_of_mem_calls rfl]
  intro call hCall
  rw [Options.calls_mapping hEdits] at h hCall
  exact h call (Options.mem_entryCalls_of_single hUnique he hCall)

/-- The effective calls of a map that is not refused hold exactly if those of its single entries
do. -/
theorem calls_hold_iff_singles_hold (hEdits : o.edits = []) (hUnique : o.TermUnique entries)
    (hCap : s.cap = none)
    (h : (s.callAll db.schema (o.calls s.dialect (.mapping entries))).2 = none) (r : Row) :
    (∀ call ∈ o.calls s.dialect (.mapping entries), call.isEffective = true →
        Call.Holds db s.dialect s.model r call) ↔
      ∀ e ∈ o.singles entries, ∀ call ∈ o.calls s.dialect (.mapping [e]), call.isEffective = true →
        Call.Holds db s.dialect s.model r call := by
  rw [Selection.callAll_succeeds_iff Options.isFilter_of_mem_calls hCap] at h
  simp only [Options.calls_mapping hEdits] at h ⊢
  constructor
  · intro hAll e he call hCall
    exact hAll call (Options.mem_entryCalls_of_single hUnique he hCall)
  · intro hAll call hCall hEffective
    rcases Options.exists_single_of_mem_entryCalls hUnique hCall with ⟨e, he, hSingle⟩ | ⟨error, rfl⟩
    · exact hAll e he call hSingle hEffective
    · -- a call that breaks off would have refused the map
      obtain ⟨added, hAdded⟩ := h _ hCall
      cases hAdded

/-- A row is selected after a map exactly if it was before, and each single entry selects it. -/
theorem mem_matching_iff_alone (hEdits : o.edits = []) (hUnique : o.TermUnique entries)
    (hCap : s.cap = none)
    (h : s.callAll db.schema (o.calls s.dialect (.mapping entries)) = (s', none)) (r : Row) :
    r ∈ s'.matching db ↔ r ∈ s.matching db ∧
      ∀ e ∈ o.singles entries, r ∈ (o.alone db.schema s e).1.matching db := by
  have hOk := congrArg Prod.snd h
  rw [Selection.mem_matching_callAll_iff Options.isFilter_of_mem_calls hCap h,
    calls_hold_iff_singles_hold hEdits hUnique hCap hOk]
  refine and_congr_right fun hMem => forall_congr' fun e => forall_congr' fun he => ?_
  have hAlone : o.alone db.schema s e = ((o.alone db.schema s e).1, none) :=
    Selection.eq_of_snd_eq_none (alone_succeeds hEdits hUnique hCap hOk he)
  have hRow : r ∈ db.rows s.model := ((Selection.mem_matching_iff db s r).mp hMem).1
  rw [Selection.mem_matching_callAll_iff Options.isFilter_of_mem_calls rfl hAlone,
    Selection.matching_ofModel]
  exact (and_iff_right hRow).symm

/-- A reordered map is refused if this one is, and selects the same rows. -/
theorem matching_of_reordered (db : Database) (hEdits : o.edits = []) (hUnique : o.TermUnique entries)
    (hCap : s.cap = none) (hOrder : o.Reordered entries entries') :
    ((s.callAll db.schema (o.calls s.dialect (.mapping entries))).2 = none ↔
      (s.callAll db.schema (o.calls s.dialect (.mapping entries'))).2 = none) ∧
    ∀ s₁ s₂, s.callAll db.schema (o.calls s.dialect (.mapping entries)) = (s₁, none) →
      s.callAll db.schema (o.calls s.dialect (.mapping entries')) = (s₂, none) →
        s₁.matching db = s₂.matching db := by
  have hCalls : ∀ call, call ∈ o.entryCalls (o.dialect?.getD s.dialect) entries ↔
      call ∈ o.entryCalls (o.dialect?.getD s.dialect) entries' :=
    (hOrder.mem_entryCalls_iff hUnique).2
  simp only [← Options.calls_mapping hEdits] at hCalls
  refine ⟨?_, ?_⟩
  · rw [Selection.callAll_succeeds_iff Options.isFilter_of_mem_calls hCap,
      Selection.callAll_succeeds_iff Options.isFilter_of_mem_calls hCap]
    simp only [hCalls]
  · intro s₁ s₂ h₁ h₂
    rw [Selection.matching_eq_iff_of_callAll hCap Options.isFilter_of_mem_calls
      Options.isFilter_of_mem_calls h₁ h₂]
    intro r
    rw [Selection.mem_matching_callAll_iff Options.isFilter_of_mem_calls hCap h₁,
      Selection.mem_matching_callAll_iff Options.isFilter_of_mem_calls hCap h₂]
    simp only [hCalls]

end Run

/-- **A map selects the intersection of what its entries select.** Let a query without a cap ask for
anything already, and let the keys of a map be distinct.

If the map is not refused, none of its single entries is; if the store then answers, every row was
selected before, and the rows are exactly those that were and that each single entry selects alone.

A map with the same entries and operators in another order is refused exactly if this one is;
otherwise it selects the same rows, in the same order. -/
theorem filters_intersect (db : Database) (o : Options) (s : Selection)
    (entries : List (Value × Value)) (hEdits : o.edits = []) (hKeys : Value.DistinctKeys entries)
    (hCap : s.cap = none) :
    (∀ s', s.callAll db.schema (o.calls s.dialect (.mapping entries)) = (s', none) →
      (∀ e ∈ o.singles entries, (o.alone db.schema s e).2 = none) ∧
      ∀ rows rows', s.all db = .ok rows → s'.all db = .ok rows' →
        rows' ⊆ rows ∧
        ∀ answer : Value × Value → List Row,
          (∀ e ∈ o.singles entries, (o.alone db.schema s e).1.all db = .ok (answer e)) →
          ∀ r, r ∈ rows' ↔ r ∈ rows ∧ ∀ e ∈ o.singles entries, r ∈ answer e) ∧
    ∀ entries', o.Reordered entries entries' →
      ((s.callAll db.schema (o.calls s.dialect (.mapping entries))).2 = none ↔
        (s.callAll db.schema (o.calls s.dialect (.mapping entries'))).2 = none) ∧
      ∀ s₁ s₂, s.callAll db.schema (o.calls s.dialect (.mapping entries)) = (s₁, none) →
        s.callAll db.schema (o.calls s.dialect (.mapping entries')) = (s₂, none) →
          s₁.matching db = s₂.matching db ∧
          ∀ rows₁ rows₂, s₁.all db = .ok rows₁ → s₂.all db = .ok rows₂ → rows₁ = rows₂ := by
  have hUnique : o.TermUnique entries := Options.termUnique_of_distinctKeys hKeys
  refine ⟨?_, ?_⟩
  · intro s' h
    have hAlone := fun e he => alone_succeeds hEdits hUnique hCap (congrArg Prod.snd h) (e := e) he
    refine ⟨hAlone, ?_⟩
    intro rows rows' hRows hRows'
    have hCap' : s'.cap = none :=
      Selection.cap_of_callAll Options.isFilter_of_mem_calls hCap h
    -- rows of answers are rows that match, and these are known
    have hMem (r : Row) : r ∈ rows' ↔ r ∈ rows ∧
        ∀ e ∈ o.singles entries, r ∈ (o.alone db.schema s e).1.matching db := by
      rw [Selection.mem_all_iff hCap' hRows', Selection.mem_all_iff hCap hRows]
      exact mem_matching_iff_alone hEdits hUnique hCap h r
    refine ⟨fun r hr => ((hMem r).mp hr).1, ?_⟩
    intro answer hAnswer r
    rw [hMem]
    refine and_congr_right fun _ => forall_congr' fun e => forall_congr' fun he => ?_
    have hCapAlone : (o.alone db.schema s e).1.cap = none :=
      Selection.cap_of_callAll Options.isFilter_of_mem_calls rfl
        (Selection.eq_of_snd_eq_none (hAlone e he))
    exact (Selection.mem_all_iff hCapAlone (hAnswer e he) r).symm
  · intro entries' hOrder
    obtain ⟨hRefused, hMatching⟩ := matching_of_reordered db hEdits hUnique hCap hOrder
    refine ⟨hRefused, ?_⟩
    intro s₁ s₂ h₁ h₂
    have hSame := hMatching s₁ s₂ h₁ h₂
    refine ⟨hSame, ?_⟩
    intro rows₁ rows₂ hRows₁ hRows₂
    exact (Selection.rows_eq_iff_of_callAll hCap Options.isFilter_of_mem_calls
      Options.isFilter_of_mem_calls h₁ h₂ hRows₁ hRows₂).mpr hSame

/-- The products that have a category: a scope that may be declared for a resource. -/
def categorised : Selection :=
  (Selection.ofModel Sample.product "sqlite").gather [.notNull ⟨"category_id", .integer⟩]

/-- The search term is sought in names and descriptions. -/
def textOptions : Options :=
  { Options.default with termFields := .tuple [.text "name", .text "description"] }

/-- A field with two operators, a field of the category and the search term. -/
def galaxyMap : List (Value × Value) :=
  [(.text "stock", .mapping [(.text "gtn", .text "4"), (.text "neq", .text "15")]),
    (.text "category.name", .mapping [(.text "in", .text "Phones, Laptops")]),
    (.text "term", .text "galaxy")]

/-- The same map in another order. -/
def galaxyMapReordered : List (Value × Value) :=
  [(.text "stock", .mapping [(.text "neq", .text "15"), (.text "gtn", .text "4")]),
    (.text "term", .text "galaxy"),
    (.text "category.name", .mapping [(.text "in", .text "Phones, Laptops")])]

theorem galaxyMap_reordered : textOptions.Reordered galaxyMap galaxyMapReordered := by
  have hField : ¬ textOptions.IsTerm
      (.text "stock", .mapping [(.text "gtn", .text "4"), (.text "neq", .text "15")]) := by
    decide
  exact .trans (@Options.Reordered.operators _ [] _ _ _ _ hField (.swap _ _ []))
    (.entries (.cons _ (.swap _ _ [])))

/-- Of the products with a category the map leaves one, which each of its single entries selects
alone; in the other order it leaves the same one. -/
theorem filters_intersect_galaxyMap :
    ∃ s' s'' rows rows', ∃ answer : Value × Value → List Row,
      categorised.callAll Sample.shop.schema
        (textOptions.calls categorised.dialect (.mapping galaxyMap)) = (s', none) ∧
      categorised.callAll Sample.shop.schema
        (textOptions.calls categorised.dialect (.mapping galaxyMapReordered)) = (s'', none) ∧
      categorised.all Sample.shop = .ok rows ∧ s'.all Sample.shop = .ok rows' ∧
      (s'.matching Sample.shop).map (·.key) = [2] ∧
      (∀ r, r ∈ rows' ↔ r ∈ rows ∧ ∀ e ∈ textOptions.singles galaxyMap, r ∈ answer e) ∧
      s'.matching Sample.shop = s''.matching Sample.shop := by
  obtain ⟨hInter, hOrder⟩ := filters_intersect Sample.shop textOptions categorised galaxyMap rfl
    (by decide) rfl
  obtain ⟨hRefused, hSame⟩ := hOrder galaxyMapReordered galaxyMap_reordered
  -- neither order is refused, and the store answers
  obtain ⟨hOk, hFaultless, hRefusal, hKeys⟩ :
      (categorised.callAll Sample.shop.schema
        (textOptions.calls categorised.dialect (.mapping galaxyMap))).2.isNone = true ∧
      (∀ c ∈ (categorised.callAll Sample.shop.schema
        (textOptions.calls categorised.dialect (.mapping galaxyMap))).1.conditions,
          c.isFaultless = true) ∧
      ((categorised.callAll Sample.shop.schema (textOptions.calls categorised.dialect
        (.mapping galaxyMap))).1.refusal? .rows).isNone = true ∧
      ((categorised.callAll Sample.shop.schema (textOptions.calls categorised.dialect
        (.mapping galaxyMap))).1.matching Sample.shop).map (·.key) = [2] := by decide +kernel
  rw [Option.isNone_iff_eq_none] at hOk hRefusal
  obtain ⟨s'', h'⟩ : ∃ s'', categorised.callAll Sample.shop.schema
      (textOptions.calls categorised.dialect (.mapping galaxyMapReordered)) = (s'', none) :=
    ⟨_, Selection.eq_of_snd_eq_none (hRefused.mp hOk)⟩
  obtain ⟨s', h⟩ : ∃ s', categorised.callAll Sample.shop.schema
      (textOptions.calls categorised.dialect (.mapping galaxyMap)) = (s', none) :=
    ⟨_, Selection.eq_of_snd_eq_none hOk⟩
  -- it answers before, and each single entry
  have hCheckScope : categorised.check Sample.shop .rows = .ok () :=
    Selection.check_of_isFaultless (Option.isNone_iff_eq_none.mp (by decide))
      (by decide)
  have hAnswersAlone : ∀ e ∈ textOptions.singles galaxyMap,
      (∀ c ∈ (textOptions.alone Sample.shop.schema categorised e).1.conditions,
        c.isFaultless = true) ∧
      ((textOptions.alone Sample.shop.schema categorised e).1.refusal? .rows).isNone = true := by
    decide +kernel
  rw [h] at hFaultless hRefusal hKeys
  have hCheck : s'.check Sample.shop .rows = .ok () :=
    Selection.check_of_isFaultless hRefusal hFaultless
  have hRows := (Selection.all_eq_ok_iff (s := categorised) rfl).mpr ⟨hCheckScope, rfl⟩
  have hRows' := (Selection.all_eq_ok_iff
    (Selection.cap_of_callAll Options.isFilter_of_mem_calls rfl h)).mpr ⟨hCheck, rfl⟩
  obtain ⟨hAlone, hAnswer⟩ := hInter s' h
  refine ⟨s', s'', _, _, fun e =>
    (textOptions.alone Sample.shop.schema categorised e).1.ordered Sample.shop, h, h', hRows,
    hRows', hKeys, ?_, (hSame s' s'' h h').1⟩
  refine (hAnswer _ _ hRows hRows').2 _ fun e he => ?_
  have hCap : (textOptions.alone Sample.shop.schema categorised e).1.cap = none :=
    Selection.cap_of_callAll Options.isFilter_of_mem_calls rfl
      (Selection.eq_of_snd_eq_none (hAlone e he))
  have hCheckAlone : (textOptions.alone Sample.shop.schema categorised e).1.check Sample.shop .rows =
      .ok () :=
    Selection.check_of_isFaultless (Option.isNone_iff_eq_none.mp (hAnswersAlone e he).2)
      (hAnswersAlone e he).1
  exact (Selection.all_eq_ok_iff hCap).mpr ⟨hCheckAlone, rfl⟩

end Winnow.Filter
