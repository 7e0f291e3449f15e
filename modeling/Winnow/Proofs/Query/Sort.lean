import Winnow.Proofs.Filter.Entry
import Winnow.Proofs.Query.SortText
import Winnow.Proofs.Store.Answer
import Winnow.Proofs.Store.Coercion
import Winnow.Proofs.Store.Ordering
import Winnow.Proofs.Store.Sorted
import Winnow.Sample.Shop

/-!
# Winnow.Proofs.Query.Sort — sort texts order rows clause by clause

Two sort texts with a comma between them are read one after the other (`SortClause.read_append`).
Clauses whose names are columns become keys of the order, in their order and without a refusal
(`Selection.callAll?_clauses`), and rows that keys compare are compared by the first of them that
tells the rows apart (`SortClause.inOrder_iff`).

Main statement: the rows of a filtered table after the sort text `a,b` are the rows that match, in
the order of the clauses of `a`, and where these do not tell two rows apart, in the order of the
clauses of `b` (`Selection.sorted_left_to_right`).
-/

namespace Winnow

namespace SortClause

/-! ## Clauses of a text -/

theorem sortCalls_text (s : String) : (Value.text s).sortCalls = (read s).map call := by
  rw [Value.sortCalls, ofValue, Value.displayOrEmpty_text]

/-- A direction is read as it is written. -/
theorem isDescending_direction (c : SortClause) : Call.isDescending c.direction = c.descending := by
  rw [direction]
  cases c.descending <;> decide

/-! ## Rows in the order of clauses -/

/-- How a clause orders two rows: by their cells in its column, the other way around if it descends.
Null comes before all other values. -/
def compare (c : SortClause) (x y : Row) : Ordering :=
  if c.descending then Stored.order (y.cell c.field).stored (x.cell c.field).stored
  else Stored.order (x.cell c.field).stored (y.cell c.field).stored

/-- Do the clauses let the first row stand before the second? No clause puts the second one first,
unless a clause before it has told the two rows apart. -/
def InOrder (cs : List SortClause) (x y : Row) : Prop :=
  ∀ before c after, cs = before ++ c :: after → (∀ d ∈ before, d.compare x y = .eq) →
    c.compare x y ≠ .gt

/-- The key of the clause. -/
def key (c : SortClause) : OrderKey := ⟨c.field, c.descending⟩

theorem compare_key (c : SortClause) (x y : Row) : c.key.compare x y = c.compare x y := by
  rw [OrderKey.compare_eq, compare]
  cases c with
  | mk field descending => cases descending <;> rfl

variable {c : SortClause} {cs ds : List SortClause} {x y : Row}

theorem inOrder_nil : InOrder [] x y := fun _ _ _ hSplit => by simp at hSplit

/-- The first clause decides, and leaves the rows that it does not tell apart to the others. -/
theorem inOrder_cons :
    InOrder (c :: cs) x y ↔ c.compare x y ≠ .gt ∧ (c.compare x y = .eq → InOrder cs x y) := by
  constructor
  · intro h
    refine ⟨h [] c cs rfl (by simp), fun hEq before d after hSplit hBefore => ?_⟩
    refine h (c :: before) d after (congrArg (c :: ·) hSplit) ?_
    exact List.forall_mem_cons.mpr ⟨hEq, hBefore⟩
  · rintro ⟨hHead, hTail⟩ before d after hSplit hBefore
    cases before with
    | nil =>
      obtain ⟨rfl, -⟩ := List.cons.inj hSplit
      exact hHead
    | cons first before =>
      obtain ⟨rfl, hRest⟩ := List.cons.inj hSplit
      obtain ⟨hEq, hBefore⟩ := List.forall_mem_cons.mp hBefore
      exact hTail hEq before d after hRest hBefore

/-- More clauses order those rows that the clauses before them do not tell apart. -/
theorem inOrder_append :
    InOrder (cs ++ ds) x y ↔
      InOrder cs x y ∧ ((∀ c ∈ cs, c.compare x y = .eq) → InOrder ds x y) := by
  induction cs with
  | nil => simp [inOrder_nil]
  | cons c cs ih =>
    rw [List.cons_append, inOrder_cons, inOrder_cons, ih, List.forall_mem_cons]
    tauto

/-- **Keys compare rows by the first of them that tells the rows apart.** -/
theorem inOrder_iff : InOrder cs x y ↔ OrderKey.compareAll (cs.map key) x y ≠ .gt := by
  induction cs with
  | nil => exact iff_of_true inOrder_nil (by simp [OrderKey.compareAll])
  | cons c cs ih =>
    rw [inOrder_cons, ih, List.map_cons, OrderKey.compareAll, compare_key]
    cases c.compare x y <;> simp

/-- Null stands before all other values, and after them where the clause descends. -/
theorem compare_of_isNull (hx : (x.cell c.field).stored = .null)
    (hy : (y.cell c.field).stored ≠ .null) :
    c.compare x y = if c.descending then .gt else .lt := by
  rw [compare, hx]
  cases hStored : (y.cell c.field).stored with
  | null => exact absurd hStored hy
  | _ => rfl

end SortClause

namespace Selection

variable {schema : Schema} {s : Selection}

/-- **Clauses whose names are columns are not refused**, and become keys of the order. -/
theorem callAll?_clauses {cs : List SortClause} (hCap : s.cap = none)
    (hColumns : ∀ c ∈ cs, (s.model.column? c.field).isSome = true) :
    s.callAll? schema (cs.map SortClause.call) =
      .ok { s with order := s.order ++ cs.map SortClause.key } := by
  induction cs generalizing s with
  | nil => simp [callAll?, callAll]
  | cons c cs ih =>
    obtain ⟨hHead, hRest⟩ := List.forall_mem_cons.mp hColumns
    obtain ⟨column, hColumn⟩ := Option.isSome_iff_exists.mp hHead
    have hCall : s.call schema c.call = .ok { s with order := s.order ++ [c.key] } := by
      have hKey : c.key = ⟨column.name, Call.isDescending c.direction⟩ := by
        rw [Model.column?_name hColumn, c.isDescending_direction]
        rfl
      rw [hKey]
      exact bind_eq_ok_iff.mpr ⟨column, by rw [Condition.column, hColumn],
        uncapped_map_eq_ok_iff.mpr ⟨hCap, rfl⟩⟩
    have hRun := ih (s := { s with order := s.order ++ [c.key] }) hCap hRest
    rw [List.map_cons, List.map_cons, List.append_cons]
    exact callAll?_cons_eq_ok_iff.mpr ⟨_, hCall, hRun⟩

/-- The store answers a selection in whatever order if it answers it in one, unless there are too
many keys. -/
theorem check_rows_of_order {db : Database} {order : List OrderKey}
    (hCheck : s.check db .rows = .ok ()) (hKeys : order.length ≤ Extent.maxKeys) :
    ({ s with order := order } : Selection).check db .rows = .ok () := by
  obtain ⟨hRefusal, hFault⟩ := Option.or_eq_none_iff.mp (check_eq_ok_iff.mp hCheck)
  obtain ⟨hRefusals, hReadable⟩ := refusals_of_refusal? hRefusal
  have hOrdered : ({ s with order := order } : Selection).isReadable .rows = true := by
    simp only [isReadable, Bool.and_eq_true, decide_eq_true_eq] at hReadable ⊢
    exact ⟨hReadable.1, hKeys⟩
  refine check_eq_ok_iff.mpr (Option.or_eq_none_iff.mpr ⟨refusal?_rows hRefusals hOrdered, ?_⟩)
  simpa [fault?, Query.isEmpty] using hFault

/-- **Sort texts order from left to right.** Let the names in two sort texts be columns of a table.
After any filter map, the text of both with a comma between them is not refused and changes nothing
about which rows match. The rows of the table are then the matching ones in another order: of any two
of them, and so of neighbours, the clauses of the first text let the first one stand first, and if all
of them find the two equal, those of the second text do. As long as there are no more keys than the
store reads, these rows are shown whenever the rows without an order are.

A clause compares cells as the store orders them, the other way around if it descends; null stands
before every other value, or after it. -/
theorem sorted_left_to_right (db : Database) (m : Model) (dialect : String) (o : Filter.Options)
    (filters : Value) (a b : String) (s : Selection)
    (hFilters : (ofModel m dialect).callAll? db.schema (o.calls dialect filters) = .ok s)
    (hColumns : ∀ c ∈ SortClause.read a ++ SortClause.read b,
      (m.column? c.field).isSome = true) :
    ∃ t, s.callAll? db.schema (Value.text (a ++ "," ++ b)).sortCalls = .ok t ∧
      t.matching db = s.matching db ∧
      (∀ rows, t.all db = .ok rows →
        rows.Perm (s.matching db) ∧
        rows.Pairwise fun x y =>
          SortClause.InOrder (SortClause.read a) x y ∧
          ((∀ c ∈ SortClause.read a, c.compare x y = .eq) →
            SortClause.InOrder (SortClause.read b) x y)) ∧
      ((SortClause.read a).length + (SortClause.read b).length ≤ Extent.maxKeys →
        ∀ unordered, s.all db = .ok unordered → ∃ rows, t.all db = .ok rows) ∧
      ∀ (c : SortClause) (x y : Row), (x.cell c.field).stored = .null →
        (y.cell c.field).stored ≠ .null →
          c.compare x y = if c.descending then .gt else .lt := by
  obtain ⟨conditions, rfl⟩ := exists_gather_of_callAll Filter.Options.isFilter_of_mem_calls rfl
    (callAll?_eq_ok_iff.mp hFilters)
  have hSort : ((ofModel m dialect).gather conditions).callAll? db.schema
      ((SortClause.read a ++ SortClause.read b).map SortClause.call) = _ :=
    callAll?_clauses rfl hColumns
  rw [← SortClause.read_append, ← SortClause.sortCalls_text] at hSort
  refine ⟨_, hSort, rfl, ?_, ?_, fun c x y => SortClause.compare_of_isNull⟩
  · intro rows hRows
    obtain ⟨-, rfl⟩ := (all_eq_ok_iff rfl).mp hRows
    refine ⟨ordered_perm db _, (pairwise_ordered db _).imp fun {x y} hOrder => ?_⟩
    rw [← SortClause.inOrder_append, ← SortClause.read_append]
    exact SortClause.inOrder_iff.mpr hOrder
  · intro hKeys unordered hUnordered
    obtain ⟨hCheck, -⟩ := (all_eq_ok_iff rfl).mp hUnordered
    refine ⟨_, (all_eq_ok_iff rfl).mpr ⟨check_rows_of_order hCheck ?_, rfl⟩⟩
    rw [SortClause.read_append]
    simpa [ofModel, gather] using hKeys

/-- The products that cost something. -/
def priced : Selection × Option Error :=
  (ofModel Sample.product "sqlite").callAll Sample.shop.schema
    (Filter.Options.default.calls "sqlite"
      (.mapping [(.text "price", .mapping [(.text "gte", .text "0.01")])]))

/-- The same by status, the last first, and by stock; among these by stock once more, the other way
around, and by name, the last first. -/
def pricedInOrder : Selection × Option Error :=
  priced.1.callAll Sample.shop.schema (Value.text " - Status,,stock,-stock,-name").sortCalls

/-- The products in their order, by their places among those that match. -/
theorem ordered_pricedInOrder : pricedInOrder.1.ordered Sample.shop =
    [5, 2, 4, 0, 1, 3, 7, 6].map fun i => (pricedInOrder.1.matching Sample.shop)[i]! := by
  have hLength : (pricedInOrder.1.matching Sample.shop).length = 8 := by decide +kernel
  exact ordered_eq_of_places hLength (by decide) (by decide +kernel)

/-- Two products have no stock and the same status, and are left to the clauses after the second
comma: product 5 comes before product 1, by the name. -/
theorem sorted_left_to_right_priced :
    ∃ s t rows, priced = (s, none) ∧ pricedInOrder = (t, none) ∧
      (∀ c ∈ SortClause.read " - Status,,stock" ++ SortClause.read "-stock,-name",
        (Sample.product.column? c.field).isSome = true) ∧
      t.all Sample.shop = .ok rows ∧
      (s.matching Sample.shop).map (·.key) = [1, 2, 3, 4, 5, 6, 7, 9] ∧
      rows.map (·.key) = [6, 3, 5, 1, 2, 4, 9, 7] ∧
      rows.Perm (s.matching Sample.shop) ∧
      rows.Pairwise fun x y =>
        SortClause.InOrder (SortClause.read " - Status,,stock") x y ∧
        ((∀ c ∈ SortClause.read " - Status,,stock", c.compare x y = .eq) →
          SortClause.InOrder (SortClause.read "-stock,-name") x y) := by
  have hColumns : ∀ c ∈ SortClause.read " - Status,,stock" ++ SortClause.read "-stock,-name",
      (Sample.product.column? c.field).isSome = true := by decide
  have hFilters : priced = (priced.1, none) :=
    eq_of_snd_eq_none (Option.isNone_iff_eq_none.mp (by decide))
  have hCheck : priced.1.check Sample.shop .rows = .ok () :=
    check_eq_ok_iff.mpr (Option.isNone_iff_eq_none.mp (by decide +kernel))
  have hKeys : (priced.1.matching Sample.shop).map (·.key) = [1, 2, 3, 4, 5, 6, 7, 9] := by
    decide +kernel
  obtain ⟨t, hSort, -, hRows, hShown, -⟩ := sorted_left_to_right Sample.shop Sample.product "sqlite"
    Filter.Options.default _ " - Status,,stock" "-stock,-name" priced.1
    (callAll?_eq_ok_iff.mpr hFilters) hColumns
  obtain ⟨rows, hAll⟩ := hShown (by decide) _ ((all_eq_ok_iff rfl).mpr ⟨hCheck, rfl⟩)
  have hOrder : pricedInOrder = (t, none) := callAll?_eq_ok_iff.mp hSort
  obtain rfl : pricedInOrder.1 = t := congrArg Prod.fst hOrder
  have hInOrder : rows.map (·.key) = [6, 3, 5, 1, 2, 4, 9, 7] := by
    rw [((all_eq_ok_iff rfl).mp hAll).2, ordered_pricedInOrder]
    decide +kernel
  exact ⟨_, _, rows, hFilters, hOrder, hColumns, hAll, hKeys, hInOrder, hRows rows hAll⟩

end Selection

end Winnow
