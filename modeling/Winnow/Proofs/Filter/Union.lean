import Winnow.Proofs.Filter.Argument
import Winnow.Proofs.Filter.Comparison

/-!
# Winnow.Proofs.Filter.Union — operators that select what others select together

Some operators say *or*: a list asks for one of its values, an order comparison that lets equality
in asks for either, and an order comparison that lets null in asks for either, too. Their rows are
the rows of the others together, on a column of the table itself and at the end of any path of
relations (`union_laws`): there is a chain to a row that passes one test or the other exactly if
there is a chain to a row that passes the one, or a chain to a row that passes the other.

The operators come to the column on different ways. An equality trims its argument and an order
comparison does not, so their arguments have to be trimmed already; and blank arguments ask for
nothing whatever the operator, so that both sides are all rows.
-/

namespace Winnow

namespace Filter

variable {db : Database} {o : Options} {m target : Model} {dialect : String} {key v : Value}
  {names : List String} {c : Column}

/-- The operators with and without equality. -/
def looseOperators : List (Operator × Operator) :=
  [(.lessEqual, .less), (.greaterEqual, .greater)]

/-- The operators with and without null. -/
def orNullOperators : List (Operator × Operator) :=
  [(.greaterOrNull, .greater), (.lessOrNull, .less)]

/-- A comparison that lets equality in is the strict one or equality. -/
theorem meets_loose_iff {strict loose : Comparison} {x : Row}
    (h : ∀ o, loose.holds o = (strict.holds o || o == .eq)) :
    c.Meets loose v x ↔ c.Meets strict v x ∨ c.Meets .equal v x := by
  constructor
  · rintro ⟨w, o, hCoerce, hPlace, hHolds⟩
    rw [h, Bool.or_eq_true] at hHolds
    exact hHolds.imp (⟨w, o, hCoerce, hPlace, ·⟩) (⟨w, o, hCoerce, hPlace, ·⟩)
  · rintro (⟨w, o, hCoerce, hPlace, hHolds⟩ | ⟨w, o, hCoerce, hPlace, hHolds⟩)
    · exact ⟨w, o, hCoerce, hPlace, by rw [h, hHolds, Bool.true_or]⟩
    · have hEqual : (o == .eq) = true := hHolds
      exact ⟨w, o, hCoerce, hPlace, by rw [h, hEqual, Bool.or_true]⟩

theorem passes_loose_iff {p : Operator × Operator} {x : Row} (hPair : p ∈ looseOperators)
    (hTrimmed : v.trimmed = v) :
    c.Passes p.1 v x ↔ c.Passes p.2 v x ∨ c.Passes .equal v x := by
  simp only [looseOperators, List.mem_cons, List.not_mem_nil, or_false] at hPair
  rcases hPair with rfl | rfl
  · simp only [Column.Passes, hTrimmed]
    exact meets_loose_iff (by decide)
  · simp only [Column.Passes, hTrimmed]
    exact meets_loose_iff (by decide)

theorem passes_orNull_iff {p : Operator × Operator} {x : Row} (hPair : p ∈ orNullOperators) :
    c.Passes p.1 v x ↔ c.Passes p.2 v x ∨ (x.cell c.name).isNull = true := by
  simp only [orNullOperators, List.mem_cons, List.not_mem_nil, or_false] at hPair
  rcases hPair with rfl | rfl
  · exact or_comm
  · exact or_comm

section

variable (hKey : o.Reaches db.schema m key names target c)

include hKey

/-- **A list** selects what its values select one by one. -/
theorem mem_among_iff {items : List String} {rows : List Row} {parts : String → List Row}
    (hSome : items ≠ []) (hPieces : ∀ a ∈ items, Text.IsPiece a) (hLists : v.Lists items)
    (h : o.Selects db m dialect key .among v rows)
    (hParts : ∀ a ∈ items, o.Selects db m dialect key .equal (.text a) (parts a)) (r : Row) :
    r ∈ rows ↔ ∃ a ∈ items, r ∈ parts a := by
  have hItems := Value.splitList_of_lists hSome hPieces hLists
  have hSays : saysNothing .among v = false := by
    simp [saysNothing, consistsOfBlanks, Value.isBlank_of_lists hSome hPieces hLists, hItems, hSome]
  -- each value alone is an equality
  have hPart (a : String) (ha : a ∈ items) : r ∈ parts a ↔
      r ∈ db.rows m ∧ ∃ x, db.Chain m r names target x ∧ c.Meets .equal (.text a) x := by
    have hSaysA : saysNothing .equal (.text a) = false :=
      (saysNothing_eq_isBlank rfl).trans (hPieces a ha).visible
    have hMem := (hParts a ha).mem_iff hKey rfl hSaysA r
    simpa only [Column.Passes, Value.trimmed_text, (hPieces a ha).trim_eq] using hMem
  rw [h.mem_iff hKey rfl hSays]
  simp only [Column.Passes, hItems]
  constructor
  · rintro ⟨hRow, x, hChain, _, hMem, hMeets⟩
    obtain ⟨a, ha, rfl⟩ := List.mem_map.mp hMem
    exact ⟨a, ha, (hPart a ha).mpr ⟨hRow, x, hChain, hMeets⟩⟩
  · rintro ⟨a, ha, hMem⟩
    obtain ⟨hRow, x, hChain, hMeets⟩ := (hPart a ha).mp hMem
    exact ⟨hRow, x, hChain, .text a, List.mem_map_of_mem ha, hMeets⟩

/-- **An order comparison that lets equality in** selects what the strict one and equality
select. -/
theorem mem_loose_iff {p : Operator × Operator} {rows strictRows equalRows : List Row}
    (hPair : p ∈ looseOperators) (hTrimmed : v.trimmed = v)
    (h : o.Selects db m dialect key p.1 v rows)
    (hStrict : o.Selects db m dialect key p.2 v strictRows)
    (hEqual : o.Selects db m dialect key .equal v equalRows) (r : Row) :
    r ∈ rows ↔ r ∈ strictRows ∨ r ∈ equalRows := by
  have hOnes : ∀ p ∈ looseOperators, p.1.comparesOne = true ∧ p.2.comparesOne = true := by decide
  obtain ⟨hLooseOne, hStrictOne⟩ := hOnes p hPair
  rw [h.mem_iff_of_comparesOne hKey hLooseOne, hStrict.mem_iff_of_comparesOne hKey hStrictOne,
    hEqual.mem_iff_of_comparesOne hKey rfl]
  simp only [passes_loose_iff hPair hTrimmed, and_or_left, exists_or]
  exact or_or_distrib_left

/-- **An order comparison that lets null in** selects what the strict one selects, and the rows
whose chains lead to null. -/
theorem mem_orNull_iff {p : Operator × Operator} {rows strictRows : List Row}
    (hPair : p ∈ orNullOperators) (h : o.Selects db m dialect key p.1 v rows)
    (hStrict : o.Selects db m dialect key p.2 v strictRows) (r : Row) :
    r ∈ rows ↔ r ∈ strictRows ∨ r ∈ db.rows m ∧
      ∃ x, db.Chain m r names target x ∧ (x.cell c.name).isNull = true := by
  have hOnes : ∀ p ∈ orNullOperators, p.1.comparesOne = true ∧ p.2.comparesOne = true := by decide
  obtain ⟨hOrNullOne, hStrictOne⟩ := hOnes p hPair
  rw [h.mem_iff_of_comparesOne hKey hOrNullOne, hStrict.mem_iff_of_comparesOne hKey hStrictOne]
  simp only [passes_orNull_iff hPair, and_or_left, exists_or]
  exact or_assoc.symm

end

/-- **The union laws.** Let a key spell a path of relations, or none, to an ordered column, and let
the store answer all that is asked.

A list of texts that are trimmed, not blank and without commas selects the rows that equality with
one of them selects. An order comparison that lets equality in selects the rows of the strict one
and those of equality. An order comparison that lets null in selects the rows of the strict one and
those from which a chain along the path leads to null. -/
theorem union_laws (o : Options) (db : Database) (m target : Model) (dialect : String) (key : Value)
    (names : List String) (c : Column) (hKey : o.Reaches db.schema m key names target c) :
    (∀ (items : List String) (v : Value) (rows : List Row) (parts : String → List Row),
      items ≠ [] → (∀ a ∈ items, Text.IsPiece a) → v.Lists items →
      o.Selects db m dialect key .among v rows →
      (∀ a ∈ items, o.Selects db m dialect key .equal (.text a) (parts a)) →
      ∀ r, r ∈ rows ↔ ∃ a ∈ items, r ∈ parts a) ∧
    (∀ (v : Value) (rows strictRows equalRows : List Row), v.trimmed = v →
      ∀ p ∈ looseOperators, o.Selects db m dialect key p.1 v rows →
      o.Selects db m dialect key p.2 v strictRows → o.Selects db m dialect key .equal v equalRows →
      ∀ r, r ∈ rows ↔ r ∈ strictRows ∨ r ∈ equalRows) ∧
    (∀ (v : Value) (rows strictRows : List Row),
      ∀ p ∈ orNullOperators, o.Selects db m dialect key p.1 v rows →
      o.Selects db m dialect key p.2 v strictRows →
      ∀ r, r ∈ rows ↔ r ∈ strictRows ∨ r ∈ db.rows m ∧
        ∃ x, db.Chain m r names target x ∧ (x.cell c.name).isNull = true) := by
  refine ⟨?_, ?_, ?_⟩
  · intro items v rows parts hSome hPieces hLists h hParts
    exact mem_among_iff hKey hSome hPieces hLists h hParts
  · intro v rows strictRows equalRows hTrimmed p hPair h hStrict hEqual
    exact mem_loose_iff hKey hPair hTrimmed h hStrict hEqual
  · intro v rows strictRows p hPair h hStrict
    exact mem_orNull_iff hKey hPair h hStrict

/-- The key of the stock of the products of the category of a product. -/
def siblingStock : Value := .text "category.products.stock"

theorem reaches_siblingStock : Options.default.Reaches Sample.shop.schema Sample.product
    siblingStock ["category", "products"] Sample.product stockColumn where
  edits := rfl
  field := by decide
  read := FieldPath.read_eq_ok_iff.mpr (by decide)
  follow := rfl
  column := rfl
  ordered := rfl

/-- The keys of the products with such a sibling. -/
def siblingKeys (op : Operator) (s : String) : List Int :=
  ((productsWith siblingStock op (.text s)).1.matching Sample.shop).map (·.key)

theorem siblingKeys_eq (op : Operator) (s : String) : siblingKeys op s =
    ((productsAlong ["category", "products"] "stock" op (.text s)).1.matching Sample.shop).map
      (·.key) := by
  rw [siblingKeys, productsWith_eq reaches_siblingStock]
  rfl

/-- Two values of a list, an order comparison with equality and one with null, at the end of a path
of two relations. -/
theorem union_laws_siblingStock :
    let rows op s := (productsWith siblingStock op (.text s)).1.ordered Sample.shop
    (siblingKeys .among "5,15" = [1, 2, 3, 4, 6, 9] ∧
      ∀ r, r ∈ rows .among "5,15" ↔ ∃ a ∈ ["5", "15"], r ∈ rows .equal a) ∧
    (siblingKeys .lessEqual "15" = [1, 2, 3, 4, 6, 7, 9] ∧
      ∀ r, r ∈ rows .lessEqual "15" ↔ r ∈ rows .less "15" ∨ r ∈ rows .equal "15") ∧
    (siblingKeys .greaterOrNull "10" = [1, 2, 3, 4, 6, 9] ∧
      ∀ r, r ∈ rows .greaterOrNull "10" ↔ r ∈ rows .greater "10" ∨ r ∈ Sample.shop.rows
        Sample.product ∧ ∃ x, Sample.shop.Chain Sample.product r ["category", "products"]
          Sample.product x ∧ (x.cell "stock").isNull = true) := by
  intro rows
  obtain ⟨hList, hLoose, hNull⟩ := union_laws Options.default Sample.shop Sample.product
    Sample.product "sqlite" siblingStock ["category", "products"] stockColumn reaches_siblingStock
  simp only [siblingKeys_eq]
  refine ⟨⟨by decide +kernel, ?_⟩, ⟨by decide, ?_⟩, ⟨by decide, ?_⟩⟩
  · refine hList ["5", "15"] (.text "5,15") _ (rows .equal) (by decide) ?_ .text
      (selects_productsWith reaches_siblingStock (by decide +kernel)) ?_
    · exact List.forall_mem_cons.mpr ⟨⟨by decide +kernel, by decide, by decide⟩,
        List.forall_mem_singleton.mpr ⟨by decide, by decide, by decide⟩⟩
    · exact List.forall_mem_cons.mpr
        ⟨selects_productsWith reaches_siblingStock (by decide +kernel),
          List.forall_mem_singleton.mpr
            (selects_productsWith reaches_siblingStock (by decide +kernel))⟩
  · exact hLoose (.text "15") _ _ _ rfl (.lessEqual, .less) (by decide)
      (selects_productsWith reaches_siblingStock (by decide +kernel))
      (selects_productsWith reaches_siblingStock (by decide +kernel))
      (selects_productsWith reaches_siblingStock (by decide +kernel))
  · exact hNull (.text "10") _ _ (.greaterOrNull, .greater) (by decide)
      (selects_productsWith reaches_siblingStock (by decide +kernel))
      (selects_productsWith reaches_siblingStock (by decide +kernel))

end Filter

end Winnow
