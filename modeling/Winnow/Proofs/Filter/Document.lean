import Winnow.Proofs.Filter.Argument
import Winnow.Proofs.Filter.Path
import Winnow.Proofs.Json.Member
import Winnow.Proofs.Store.Answer

/-!
# Winnow.Proofs.Filter.Document — what a search in documents selects

A search in the documents of a column has an entry for each key, with a text of values between
commas. Main statement: on the dialect that looks at elements, a row is selected exactly if its
document has, under each key that has values, a member in which one of them is found
(`Filter.document_selects`). Found is a value that the member is, or that is an item of the array
that the member is. But a search finds more than that: the value of a member of the object that the
member is, and whatever container has the value as its compact text
(`Filter.memberOfMember_is_found`).
-/

namespace Winnow

namespace Json

/-- Is the document the text, or an array with the text among its items? -/
def Holds (doc : Json) (s : String) : Prop :=
  doc = .text s ∨ ∃ items, doc = .array items ∧ .text s ∈ items

/-- Is the text found although the document does not hold it: as a member of an object, or as the
compact text of the document or of a container in it? -/
def Mentions (doc : Json) (s : String) : Prop :=
  (∃ members, doc = .object members ∧ ∃ m ∈ members, m.2 = .text s) ∨
    ∃ part ∈ doc :: doc.elements, part.isContainer = true ∧ part.write compact = s

end Json

namespace Condition

/-! ## Truth -/

theorem ofDouble_ne_text (x : Binary64) (s : String) : Stored.ofDouble x ≠ .text s := by
  cases x <;> exact Stored.noConfusion

/-- Only texts and containers are kept as texts. -/
theorem storedJson_eq_text_iff {doc : Json} {s : String} :
    storedJson doc = .text s ↔
      doc = .text s ∨ doc.isContainer = true ∧ doc.write Json.compact = s := by
  cases doc with
  | int n =>
    have : storedJson (.int n) ≠ .text s := by
      rw [storedJson]
      split
      · exact Stored.noConfusion
      · exact ofDouble_ne_text _ _
    simp [this, Json.isContainer]
  | double x => simp [storedJson, Json.isContainer, ofDouble_ne_text]
  | _ => simp [storedJson, Json.isContainer]

/-- A stored value equals a text exactly if it is this text. -/
theorem equalsStored_text_iff {a : Stored} {s : String} :
    equalsStored a (.text s) = some true ↔ a = .text s := by
  have hEqual : equalsStored a (.text s) =
      (Stored.compare? a (.text s)).map (Comparison.equal.holds ·) := rfl
  rw [hEqual]
  cases a with
  | text t =>
    have hSame : Ord.compare t s = .eq ↔ t = s := Std.LawfulEqCmp.compare_eq_iff_eq
    simp [Stored.compare?, Comparison.holds, hSame]
  | _ => simp [Stored.compare?, Comparison.holds]

/-- The value at the path, or one of its elements. -/
theorem found_iff {doc : Json} {s : String} :
    (storedJson doc = .text s ∨ ∃ e ∈ doc.elements, storedJson e = .text s) ↔
      doc.Holds s ∨ doc.Mentions s := by
  simp only [storedJson_eq_text_iff, Json.Holds, Json.Mentions]
  cases doc with
  | array items =>
    simp only [Json.elements, Json.isContainer, true_and, List.mem_cons]
    grind
  | object members =>
    simp only [Json.elements, Json.isContainer, true_and, List.mem_cons, List.mem_map]
    grind
  | _ => simp [Json.elements, Json.isContainer]

/-- **What is found in a document.** The value under the key holds the text, or the text is found in
it otherwise. -/
theorem documentHolds_iff {cell : Cell} {key s : String} :
    documentHolds .elements key (.text s) cell = some true ↔
      ∃ doc, cell.lookup key = .ok (some doc) ∧ (doc.Holds s ∨ doc.Mentions s) := by
  have hUnfolded : documentHolds .elements key (.text s) cell = disjoin
      (equalsStored (((cell.lookup key).toOption.join.map storedJson).getD .null) (.text s))
      (some ((((cell.lookup key).toOption.join.map Json.elements).getD []).any fun item =>
        equalsStored (storedJson item) (.text s) == some true)) := rfl
  rw [hUnfolded, disjoin_eq_true_iff, equalsStored_text_iff, Option.some.injEq, List.any_eq_true]
  simp only [beq_iff_eq, equalsStored_text_iff]
  cases cell.lookup key with
  | error e => simp [Except.toOption]
  | ok doc? =>
    cases doc? with
    | none => simp [Except.toOption]
    | some doc => simpa [Except.toOption] using found_iff

/-! ## The search under one key -/

/-- The condition of a search for values under a key. -/
def search (c : Column) (key : String) (values : List String) : Condition :=
  match values with
  | [p] => documentHas c .elements key (.text p)
  | ps => any (ps.map fun p => documentHas c .elements key (.text p))

/-- A single value is searched by itself, several as alternatives; it is the same. -/
theorem eval_search_iff {db : Database} {r : Row} {c : Column} {key : String}
    {values : List String} :
    eval db r (search c key values) = some true ↔
      ∃ p ∈ values, documentHolds .elements key (.text p) (r.cell c.name) = some true := by
  have hSeveral : ∀ ps : List String,
      eval db r (.any (ps.map fun p => .documentHas c .elements key (.text p))) = some true ↔
        ∃ p ∈ ps, documentHolds .elements key (.text p) (r.cell c.name) = some true := by
    intro ps
    rw [eval_any_iff]
    simp [eval]
  rcases values with _ | ⟨p, _ | ⟨q, ps⟩⟩
  · exact hSeveral []
  · simp [search, eval]
  · exact hSeveral (p :: q :: ps)

theorem mem_allBindings_iff {conditions : List Condition} {b : Binding} :
    b ∈ allBindings conditions ↔ ∃ c ∈ conditions, b ∈ bindings c := by
  induction conditions with
  | nil => simp [allBindings]
  | cons c cs ih => simp [allBindings, ih]

/-- The store takes every value that is searched. -/
theorem bindings_search {c : Column} {key : String} {values : List String} {b : Binding}
    (h : b ∈ bindings (search c key values)) : ∃ a, b = .ok a := by
  have hSeveral : ∀ ps : List String, b ∈ allBindings (ps.map fun p =>
      documentHas c .elements key (.text p)) → ∃ a, b = .ok a := by
    intro ps hb
    obtain ⟨condition, hMem, hb⟩ := mem_allBindings_iff.mp hb
    obtain ⟨p, -, rfl⟩ := List.mem_map.mp hMem
    rw [bindings, List.mem_singleton] at hb
    exact ⟨.text p, hb⟩
  rcases values with _ | ⟨p, _ | ⟨q, ps⟩⟩
  · exact hSeveral [] h
  · exact hSeveral [p] (by simpa [search, allBindings] using h)
  · exact hSeveral (p :: q :: ps) h

end Condition

namespace Cell

/-- Does the cell hold a document or nothing? -/
def HoldsDocument (cell : Cell) : Prop := cell = .null ∨ ∃ doc, cell = .document doc

/-- The same as a test. -/
def isDocument : Cell → Bool
  | null => true
  | document _ => true
  | value _ => false

theorem holdsDocument_of_isDocument {cell : Cell} (h : cell.isDocument = true) :
    cell.HoldsDocument := by
  cases cell with
  | null => exact .inl rfl
  | document doc => exact .inr ⟨doc, rfl⟩
  | value v => cases h

theorem lookup_document {key : String} (h : Json.IsPlainKey key) (doc : Json) :
    (document doc).lookup key = .ok (doc.member? key) := by
  simp only [lookup, Json.lookup_of_isPlain h]
  cases doc.member? key <;> rfl

/-- Under a plain key nothing goes wrong. -/
theorem lookup_eq_ok {cell : Cell} {key : String} (h : Json.IsPlainKey key)
    (hCell : cell.HoldsDocument) : ∃ found, cell.lookup key = .ok found := by
  rcases hCell with rfl | ⟨doc, rfl⟩
  · exact ⟨none, rfl⟩
  · exact ⟨_, lookup_document h doc⟩

theorem lookup_eq_some_iff {cell : Cell} {key : String} {member : Json} (h : Json.IsPlainKey key)
    (hCell : cell.HoldsDocument) : cell.lookup key = .ok (some member) ↔
      ∃ doc, cell = .document doc ∧ doc.member? key = some member := by
  rcases hCell with rfl | ⟨doc, rfl⟩
  · simp [lookup, stored, Stored.asText?]
  · simp [lookup_document h]

end Cell

namespace Condition

theorem fault?_search {db : Database} {m : Model} {c : Column} {key : String}
    {values : List String} {r : Row} (h : Json.IsPlainKey key)
    (hCell : (r.cell c.name).HoldsDocument) : fault? db m (search c key values) r = none := by
  have hOne : ∀ p, fault? db m (.documentHas c .elements key (.text p)) r = none := by
    intro p
    obtain ⟨found, hFound⟩ := Cell.lookup_eq_ok h hCell
    rw [fault?, hFound]
  have hSeveral : ∀ ps : List String,
      fault? db m (.any (ps.map fun p => documentHas c .elements key (.text p))) r = none := by
    intro ps
    rw [fault?]
    refine Test.firstFault?_eq_none _ fun t ht => ?_
    obtain ⟨condition, hMem, hFault⟩ := exists_of_mem_tests ht
    obtain ⟨p, -, rfl⟩ := List.mem_map.mp hMem
    rw [hFault]
    exact hOne p
  rcases values with _ | ⟨p, _ | ⟨q, ps⟩⟩
  · exact hSeveral []
  · exact hOne p
  · exact hSeveral (p :: q :: ps)

/-- A search under a plain key is a search in the member of the document under it. -/
theorem eval_search_iff_member {db : Database} {c : Column} {key : String} {values : List String}
    {r : Row} (h : Json.IsPlainKey key) (hCell : (r.cell c.name).HoldsDocument) :
    eval db r (search c key values) = some true ↔
      ∃ doc member, r.cell c.name = .document doc ∧ doc.member? key = some member ∧
        ∃ p ∈ values, member.Holds p ∨ member.Mentions p := by
  simp only [eval_search_iff, documentHolds_iff, Cell.lookup_eq_some_iff h hCell]
  constructor
  · rintro ⟨p, hp, member, ⟨doc, hDoc, hMember⟩, hFound⟩
    exact ⟨doc, member, hDoc, hMember, p, hp, hFound⟩
  · rintro ⟨doc, member, hDoc, hMember, p, hp, hFound⟩
    exact ⟨p, hp, member, ⟨doc, hDoc, hMember⟩, hFound⟩

end Condition

namespace Filter

/-! ## The argument -/

/-- The argument of a search: keys with texts of values between commas. -/
def documentArgument (entries : List (String × String)) : Value :=
  .mapping (entries.map fun e => (.text e.1, .text e.2))

/-- The condition of one key; none if its text has no values. -/
def search? (c : Column) (e : String × String) : Option Condition :=
  if Text.pieces e.2 = [] then none else some (Condition.search c e.1 (Text.pieces e.2))

section Calls

variable {schema : Schema} {m : Model} {c : Column} (hColumn : m.column? c.name = some c)

include hColumn

/-- One value is sought by itself. -/
theorem ofCall?_documentHas (key value : String) :
    Condition.ofCall? schema "sqlite" m (.documentHas c.name key (.text value)) =
      .ok (some (.documentHas c .elements key (.text value))) := by
  have hForm : DocumentForm.ofDialect "sqlite" = .elements := by decide
  simp [Condition.ofCall?, Condition.column, hColumn, hForm, bind, Except.bind, pure, Except.pure]

theorem ofCalls_documentHas (key : String) (values : List String) :
    Condition.ofCalls schema "sqlite" m
        (values.map fun value => .documentHas c.name key (.text value)) =
      .ok (values.map fun value => .documentHas c .elements key (.text value)) := by
  induction values with
  | nil => rfl
  | cons value values ih =>
    exact Condition.ofCalls_cons_eq_ok_iff.mpr ⟨_, _, ofCall?_documentHas hColumn key value, ih, rfl⟩

/-- A key has a call exactly if it has a condition, and that is what the call adds. -/
theorem documentCall?_cases (schema : Schema) (key s : String) :
    (documentCall? c.name (.text key) (.text s) = none ∧ search? c (key, s) = none) ∨
      ∃ call, documentCall? c.name (.text key) (.text s) = some call ∧
        Condition.ofCall? schema "sqlite" m call = .ok (search? c (key, s)) := by
  rw [documentCall?, Value.splitList_text, search?]
  -- no value, one or several
  rcases Text.pieces s with _ | ⟨value, _ | ⟨other, values⟩⟩
  · exact .inl ⟨rfl, rfl⟩
  · exact .inr ⟨_, rfl, ofCall?_documentHas hColumn key value⟩
  · refine .inr ⟨.any ((value :: other :: values).map fun value =>
      .documentHas c.name key (.text value)), ?_, ?_⟩
    · simp [Value.display_text]
    · rw [Condition.ofCall?, ofCalls_documentHas hColumn]
      rfl

/-- The calls of an argument have the searches of its keys as conditions. -/
theorem ofCalls_documentCalls (entries : List (String × String)) :
    Condition.ofCalls schema "sqlite" m
      ((entries.map fun e => (Value.text e.1, Value.text e.2)).filterMap fun e =>
        documentCall? c.name e.1 e.2) = .ok (entries.filterMap (search? c)) := by
  induction entries with
  | nil => rfl
  | cons e es ih =>
    rw [List.map_cons, List.filterMap_cons, List.filterMap_cons]
    rcases documentCall?_cases hColumn schema e.1 e.2 with ⟨hCall, hSearch⟩ | ⟨call, hCall, hAdded⟩
    · rw [hCall, hSearch]
      exact ih
    · rw [hCall]
      refine Condition.ofCalls_cons_eq_ok_iff.mpr ⟨_, _, hAdded, ih, ?_⟩
      cases search? c (e.1, e.2) <;> rfl

end Calls

theorem mem_searches_iff {c : Column} {entries : List (String × String)} {condition : Condition} :
    condition ∈ entries.filterMap (search? c) ↔ ∃ e ∈ entries, Text.pieces e.2 ≠ [] ∧
      condition = .search c e.1 (Text.pieces e.2) := by
  rw [List.mem_filterMap]
  simp only [search?, Option.ite_none_left_eq_some, Option.some.injEq]
  simp only [eq_comm (a := condition)]

/-! ## Rows -/

/-- The calls of an entry for a search in documents. -/
theorem calls_document {o : Options} {key operator : Value} {c : Column}
    {entries : List (String × String)} (hEdits : o.edits = [])
    (hField : ¬ o.IsTerm (key, .mapping [(operator, documentArgument entries)]))
    (hRead : FieldPath.read o.externalId key = .ok ⟨[], c.name⟩)
    (hOperator : operatorOf operator = .ok .json) :
    o.calls "sqlite" (.mapping [(key, .mapping [(operator, documentArgument entries)])]) =
      (entries.map fun e => (Value.text e.1, Value.text e.2)).filterMap fun e =>
        documentCall? c.name e.1 e.2 := by
  rw [Options.calls_of_operator hEdits hField hRead rfl hOperator]
  cases entries with
  | nil => rfl
  | cons e es => rfl

/-- A statement of searches under plain keys is answered if it can be read: every value is taken,
and no cell goes wrong. -/
theorem all_searches {db : Database} {m : Model} {c : Column} {entries : List (String × String)}
    {s : Selection} (hPlain : ∀ e ∈ entries, Json.IsPlainKey e.1)
    (hCells : ∀ r ∈ db.rows m, (r.cell c.name).HoldsDocument)
    (hSelection : s = (Selection.ofModel m "sqlite").gather (entries.filterMap (search? c))) :
    s.all db = if s.isReadable .rows = true then .ok (s.ordered db) else .error .tooLarge := by
  subst hSelection
  refine Selection.all_eq_ite rfl (Condition.refusals_eq_nil_iff.mpr fun b hb => ?_) ?_
  · obtain ⟨condition, hMem, hb⟩ := Condition.mem_allBindings_iff.mp hb
    obtain ⟨e, -, -, rfl⟩ := mem_searches_iff.mp hMem
    exact Condition.bindings_search hb
  · refine Selection.fault?_eq_none_of_rows fun r hr => ?_
    refine Condition.Test.allFault?_eq_none fun t ht => ?_
    obtain ⟨condition, hMem, hFault⟩ := Condition.exists_of_mem_tests ht
    obtain ⟨e, he, -, rfl⟩ := mem_searches_iff.mp hMem
    rw [hFault]
    exact Condition.fault?_search (hPlain e he) (hCells r hr)

/-- **What a search in documents selects.** The operator of documents, on a column whose cells hold
documents or nothing, is not refused for an argument of plain keys with texts of values, and is
answered whenever the store can read the statement. Selected are the rows whose document has a
member under each key that has values, in which one of them is found: the member holds the value, or
the value is found in it otherwise. -/
theorem document_selects (db : Database) (o : Options) (m : Model) (key operator : Value)
    (c : Column) (entries : List (String × String)) (hEdits : o.edits = [])
    (hField : ¬ o.IsTerm (key, .mapping [(operator, documentArgument entries)]))
    (hRead : FieldPath.read o.externalId key = .ok ⟨[], c.name⟩)
    (hOperator : operatorOf operator = .ok .json) (hColumn : m.column? c.name = some c)
    (hPlain : ∀ e ∈ entries, Json.IsPlainKey e.1)
    (hCells : ∀ r ∈ db.rows m, (r.cell c.name).HoldsDocument) :
    ∃ s, (Selection.ofModel m "sqlite").callAll db.schema
        (o.calls "sqlite" (.mapping [(key, .mapping [(operator, documentArgument entries)])])) =
          (s, none) ∧
      (s.all db = if s.isReadable .rows = true then .ok (s.ordered db) else .error .tooLarge) ∧
      ∀ r, r ∈ s.ordered db ↔ r ∈ db.rows m ∧ ∀ e ∈ entries, Text.pieces e.2 ≠ [] →
        ∃ doc member, r.cell c.name = .document doc ∧ doc.member? e.1 = some member ∧
          ∃ p ∈ Text.pieces e.2, member.Holds p ∨ member.Mentions p := by
  have hConditions : Condition.ofCalls db.schema "sqlite" m
      (o.calls "sqlite" (.mapping [(key, .mapping [(operator, documentArgument entries)])])) =
        .ok (entries.filterMap (search? c)) := by
    rw [calls_document hEdits hField hRead hOperator]
    exact ofCalls_documentCalls hColumn entries
  have hRun := (Selection.callAll_eq_iff (s := Selection.ofModel m "sqlite")
    Options.isFilter_of_mem_calls rfl).mpr ⟨_, hConditions, rfl⟩
  refine ⟨_, hRun, all_searches hPlain hCells rfl, fun r => ?_⟩
  rw [Selection.ordered, Selection.inOrder, List.mem_mergeSort, Selection.mem_matching_iff]
  refine and_congr_right fun hr => ?_
  constructor
  · intro h e he hValues
    rw [← Condition.eval_search_iff_member (hPlain e he) (hCells r hr)]
    exact h _ (mem_searches_iff.mpr ⟨e, he, hValues, rfl⟩)
  · intro h condition hMem
    obtain ⟨e, he, hValues, rfl⟩ := mem_searches_iff.mp hMem
    rw [Condition.eval_search_iff_member (hPlain e he) (hCells r hr)]
    exact h e he hValues

/-- The products of the shop that a search in their attributes selects. -/
def withAttributes (entries : List (String × String)) : Selection × Option Error :=
  productsAfter [(.text "attributes", .mapping [(.text "json", documentArgument entries)])]

/-- Every product of the shop has a document of attributes, be it null. -/
theorem attributes_holdDocument :
    ∀ r ∈ Sample.shop.rows Sample.product, (r.cell "attributes").HoldsDocument := by
  have hAll : ((Sample.shop.rows Sample.product).all fun r =>
      (r.cell "attributes").isDocument) = true := by decide
  intro r hr
  exact Cell.holdsDocument_of_isDocument (List.all_eq_true.mp hAll r hr)

/-- Two colours, one of which stands in an array; the key without values asks for nothing. -/
theorem document_selects_redOrBlack :
    ∃ s, withAttributes [("color", "red, black"), ("tags", " , ")] = (s, none) ∧
      (s.matching Sample.shop).map (·.key) = [1, 3, 6, 9] ∧
      ∀ r, r ∈ s.ordered Sample.shop ↔ r ∈ Sample.shop.rows Sample.product ∧
        ∀ e ∈ [("color", "red, black"), ("tags", " , ")], Text.pieces e.2 ≠ [] →
          ∃ doc member, r.cell "attributes" = .document doc ∧ doc.member? e.1 = some member ∧
            ∃ p ∈ Text.pieces e.2, member.Holds p ∨ member.Mentions p := by
  have hRead : FieldPath.read Options.default.externalId (.text "attributes") =
      .ok ⟨[], "attributes"⟩ :=
    FieldPath.read_eq_ok_iff.mpr (by decide)
  have hPlain : ∀ e ∈ [("color", "red, black"), ("tags", " , ")], Json.IsPlainKey e.1 := by
    intro e he
    simp only [List.mem_cons, List.not_mem_nil, or_false] at he
    rcases he with rfl | rfl
    · exact ⟨'c', "olor".toList, rfl, by decide, List.all_eq_true.mp (by decide)⟩
    · exact ⟨'t', "ags".toList, rfl, by decide, List.all_eq_true.mp (by decide)⟩
  obtain ⟨s, hRun, -, hRows⟩ := document_selects Sample.shop Options.default Sample.product
    (.text "attributes") (.text "json") ⟨"attributes", .document⟩
    [("color", "red, black"), ("tags", " , ")] rfl (by decide) hRead rfl
    (by decide) hPlain attributes_holdDocument
  have hKeys : ((withAttributes [("color", "red, black"), ("tags", " , ")]).1.matching
      Sample.shop).map (·.key) = [1, 3, 6, 9] := by decide +kernel
  have hRun : withAttributes [("color", "red, black"), ("tags", " , ")] = (s, none) := hRun
  rw [hRun] at hKeys
  exact ⟨s, hRun, hKeys, hRows⟩

/-- The dimensions of a product are an object, whose height is `20`. A search for the dimensions
`20` selects it, though they are neither this text nor an array. -/
theorem memberOfMember_is_found :
    (withAttributes [("dims", "20")]).2.isNone ∧
    ∃ r ∈ Sample.shop.rows Sample.product, ∃ doc members,
      r.cell "attributes" = .document doc ∧ doc.member? "dims" = some (.object members) ∧
        r.key ∈ ((withAttributes [("dims", "20")]).1.matching Sample.shop).map (·.key) := by
  refine ⟨by decide, ?_⟩
  have hSixth : (Sample.shop.rows Sample.product)[5]? = some (Sample.products.getD 5 default) := by
    rfl
  exact ⟨_, List.mem_of_getElem? hSixth, _, [("w", .int 10), ("h", .text "20")], rfl, rfl,
    by decide +kernel⟩

end Filter

end Winnow
