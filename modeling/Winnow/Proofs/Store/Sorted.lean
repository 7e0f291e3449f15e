import Winnow.Proofs.Number.Order
import Winnow.Store.Selection
import Mathlib.Data.Prod.Lex

/-!
# Winnow.Proofs.Store.Sorted — the order of rows is an order

The store puts null before all numbers and numbers before all texts, and compares integers and
doubles by what they stand for. So every value of a cell has a rank among triples of a class, a
number and a text (`Stored.rank`), and values are ordered by rank (`Stored.order_eq_compare`). The
one value without a place in the order is a double that is not a number, which no cell keeps
(`Cell.stored_ne_nan`).

Hence the keys of a selection compare rows transitively, whatever their directions, and the rows of a
selection are sorted by its keys (`Selection.pairwise_ordered`).
-/

namespace Winnow

namespace Stored

/-- The rank of a value: its class, and the number or the text that decides within the class. The
infinities are classes of their own, around the other numbers. -/
def rank : Stored → ℕ ×ₗ ℚ ×ₗ String
  | null => toLex (0, toLex (0, ""))
  | real (.infinite true) => toLex (1, toLex (0, ""))
  | int n => toLex (2, toLex ((n : ℚ), ""))
  | real (.infinite false) => toLex (3, toLex (0, ""))
  | real x => toLex (2, toLex (x.value, ""))
  | text s => toLex (4, toLex (0, s))

/-- Within the class of numbers, ranks are ordered as the numbers. -/
theorem compare_rank_number (x y : ℚ) :
    compare (toLex (2, toLex (x, "")) : ℕ ×ₗ ℚ ×ₗ String) (toLex (2, toLex (y, ""))) =
      compare x y := by
  simp [Prod.Lex.compare_def, compareLex, compareOn]

/-- **Values are ordered by rank**, except for what is not a number. -/
theorem order_eq_compare {a b : Stored} (ha : a ≠ real .nan) (hb : b ≠ real .nan) :
    order a b = compare a.rank b.rank := by
  rcases a with _ | i | (⟨s, m, q⟩ | ⟨_ | _⟩ | _) | s <;>
    rcases b with _ | j | (⟨s', m', q'⟩ | ⟨_ | _⟩ | _) | s'
  -- two classes are told apart by their numbers; what is left are the pairs of numbers
  any_goals first | rfl | exact absurd rfl ha | exact absurd rfl hb
  case int.int =>
    exact (compare_eq_of_strictMono Int.cast_strictMono i j).trans (compare_rank_number i j).symm
  case int.real.finite =>
    refine Eq.trans ?_ (compare_rank_number i (Binary64.finite s' m' q').value).symm
    exact congrArg (Option.getD · .eq) (Binary64.compareInt?_finite i s' m' q')
  case real.finite.int =>
    refine Eq.trans ?_ (compare_rank_number (Binary64.finite s m q).value j).symm
    rw [Std.OrientedOrd.eq_swap]
    exact congrArg (fun o : Option Ordering => (o.map Ordering.swap).getD .eq)
      (Binary64.compareInt?_finite j s m q)
  case real.finite.real.finite =>
    refine Eq.trans ?_ (compare_rank_number (Binary64.finite s m q).value
      (Binary64.finite s' m' q').value).symm
    exact congrArg (Option.getD · .eq) (Binary64.compare?_finite s s' m m' q q')

theorem ofDouble_ne_nan (x : Binary64) : ofDouble x ≠ real .nan := by
  cases x <;> simp [ofDouble]

theorem ofNumber_ne_nan (x : Binary64) : ofNumber x ≠ real .nan := by
  unfold ofNumber
  split
  · split
    · simp
    · exact ofDouble_ne_nan x
  · exact ofDouble_ne_nan x

end Stored

theorem Value.stored_ne_nan (v : Value) : v.stored ≠ .real .nan := by
  cases v with
  | double x => exact Stored.ofDouble_ne_nan x
  | decimal d =>
    cases h : d.toBinary64? with
    | none => simp [stored, h]
    | some x => simpa [stored, h] using Stored.ofNumber_ne_nan x
  | _ => simp [stored]

theorem Cell.stored_ne_nan (c : Cell) : c.stored ≠ .real .nan := by
  cases c with
  | value v => exact v.stored_ne_nan
  | _ => simp [stored]

namespace OrderKey

variable {keys : List OrderKey} {a b : Row}

/-- How two rows compare by the cells of a column. -/
def compareCells (column : String) (a b : Row) : Ordering :=
  Stored.order (a.cell column).stored (b.cell column).stored

/-- The cells of a column are compared by the ranks of their values. -/
theorem compareCells_eq (column : String) :
    compareCells column = compareOn fun r : Row => (r.cell column).stored.rank := by
  funext a b
  exact Stored.order_eq_compare (Cell.stored_ne_nan _) (Cell.stored_ne_nan _)

instance (column : String) : Std.TransCmp (compareCells column) := by
  rw [compareCells_eq]
  infer_instance

/-- A key that descends compares the rows the other way around. -/
theorem compare_eq (k : OrderKey) : k.compare =
    if k.descending = true then fun a b => compareCells k.column b a
    else compareCells k.column := by
  funext a b
  cases hDescending : k.descending with
  | false => simp [compare, compareCells, hDescending]
  | true =>
    have hSwap : (compareCells k.column a b).swap = compareCells k.column b a :=
      Std.OrientedCmp.eq_swap.symm
    simpa [compare, compareCells, hDescending] using hSwap

instance (k : OrderKey) : Std.TransCmp k.compare := by
  rw [compare_eq]
  split <;> infer_instance

/-- One key and then the others. -/
theorem compareAll_cons (k : OrderKey) (keys : List OrderKey) :
    compareAll (k :: keys) = compareLex k.compare (compareAll keys) := rfl

/-- **Keys compare rows transitively.** -/
instance transCmp_compareAll : (keys : List OrderKey) → Std.TransCmp (compareAll keys)
  | [] => { eq_swap := rfl, isLE_trans := fun _ _ => rfl }
  | k :: keys => by
    have := transCmp_compareAll keys
    rw [compareAll_cons]
    infer_instance

end OrderKey

namespace Selection

variable (db : Database) (s : Selection)

theorem ordered_perm : (s.ordered db).Perm (s.matching db) := List.mergeSort_perm _ _

/-- **The rows of a selection are sorted** by its keys. -/
theorem pairwise_ordered :
    (s.ordered db).Pairwise fun a b => OrderKey.compareAll s.order a b ≠ .gt := by
  have hIsLE (a b : Row) : (OrderKey.compareAll s.order a b != .gt) =
      (OrderKey.compareAll s.order a b).isLE := by
    cases OrderKey.compareAll s.order a b <;> rfl
  have hTrans (a b c : Row) (hab : OrderKey.compareAll s.order a b != .gt)
      (hbc : OrderKey.compareAll s.order b c != .gt) :
      OrderKey.compareAll s.order a c != .gt := by
    rw [hIsLE] at hab hbc ⊢
    exact Std.TransCmp.isLE_trans hab hbc
  have hTotal (a b : Row) : (OrderKey.compareAll s.order a b != .gt ||
      OrderKey.compareAll s.order b a != .gt) = true := by
    have hSwap : OrderKey.compareAll s.order b a = (OrderKey.compareAll s.order a b).swap :=
      Std.OrientedCmp.eq_swap
    rw [hSwap]
    cases OrderKey.compareAll s.order a b <;> rfl
  exact (List.pairwise_mergeSort hTrans hTotal (s.matching db)).imp fun h => by simpa using h

variable {db s}

/-- Rows of which each comes before the next ones by the keys stand in that order. -/
theorem ordered_eq_of_pairwise {rows : List Row} (hRows : rows.Perm (s.matching db))
    (h : rows.Pairwise fun a b => OrderKey.compareAll s.order a b = .lt) : s.ordered db = rows := by
  have hGreater {a b : Row} (hLess : OrderKey.compareAll s.order a b = .lt) :
      OrderKey.compareAll s.order b a = .gt := Std.OrientedCmp.gt_of_lt hLess
  -- none of two rows stands before the other only if they are the same
  have hSame : ∀ a ∈ rows, ∀ b ∈ rows, OrderKey.compareAll s.order a b ≠ .gt →
      OrderKey.compareAll s.order b a ≠ .gt → a = b :=
    List.Pairwise.forall_of_forall_of_flip (fun _ _ _ _ => rfl)
      (h.imp fun hLess _ hNot => absurd (hGreater hLess) hNot)
      (h.imp fun hLess hNot _ => absurd (hGreater hLess) hNot)
  have hOrdered := (ordered_perm db s).trans hRows.symm
  refine hOrdered.eq_of_pairwise ?_ (pairwise_ordered db s) (h.imp fun hLess => by simp [hLess])
  exact fun a b ha hb => hSame a (hOrdered.mem_iff.mp ha) b hb

/-- The same for rows that are found by their places among those that match. -/
theorem ordered_eq_of_places {n : Nat} {places : List Nat} (hLength : (s.matching db).length = n)
    (hPlaces : places.Perm (List.range n))
    (h : (places.map fun i => (s.matching db)[i]!).Pairwise fun a b =>
      OrderKey.compareAll s.order a b = .lt) :
    s.ordered db = places.map fun i => (s.matching db)[i]! := by
  subst hLength
  have hAll : (List.range (s.matching db).length).map (fun i => (s.matching db)[i]!) =
      s.matching db := by
    refine List.ext_getElem (by simp) fun i _ hi => ?_
    rw [List.getElem_map, List.getElem_range, getElem!_pos _ i hi]
  exact ordered_eq_of_pairwise ((hPlaces.map _).trans (by rw [hAll])) h

end Selection

end Winnow
