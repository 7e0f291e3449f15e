import Winnow.Proofs.Filter.Argument
import Winnow.Proofs.Filter.Comparison

/-!
# Winnow.Proofs.Filter.Complement — operators that share the rows among them

On a column of the table itself the operators come in pairs that share the rows: none is selected by
both, and none by neither. For an order comparison and the one on the other side that lets null in,
these are all rows. For the other pairs they are the rows with something in the column, and a row
with null there is selected by neither (`complement_laws`).

Two kinds of arguments are excluded. One that is read as a number that is none stands nowhere in
relation to any cell, so neither operator of a pair selects anything. A blank argument is skipped, so
both select every row, as any operator does that takes an argument (`blank_is_no_complement`).
-/

namespace Winnow

namespace Column

variable {c : Column} {v : Value} {x : Row} {comparison opposite : Comparison}

/-- Only columns of numbers that need not be whole make a number that is none. -/
theorem not_makesNaN (hOrdered : c.kind.isOrdered = true) (hDouble : c.kind ≠ .double)
    (hDecimal : c.kind ≠ .decimal) (hSome : v ≠ .null) : ¬ c.MakesNaN v := by
  rintro ⟨w, hCoerce, hNaN⟩
  have hOf := isOf_coerce hOrdered hSome hCoerce
  obtain ⟨name, kind⟩ := c
  cases hOf with
  | double x => exact hDouble rfl
  | decimal d => exact hDecimal rfl
  | text h => cases w <;> first | cases hNaN | cases h
  | _ => cases hNaN

section

variable (hOrdered : c.kind.isOrdered = true) (hSome : v ≠ .null) (hTakes : c.Takes v)
  (hNumber : ¬ c.MakesNaN v) (hOpposite : ∀ o, comparison.holds o = !opposite.holds o)

include hOrdered hSome hTakes hNumber hOpposite

/-- A cell that is not null stands in a comparison or in its opposite. -/
theorem meets_iff_not_meets (hCell : (x.cell c.name).isNull = false) :
    c.Meets comparison v x ↔ ¬ c.Meets opposite v x := by
  obtain ⟨w, o, hCoerce, hPlace⟩ := exists_place hOrdered hSome hTakes hNumber hCell
  rw [meets_iff_of_place hCoerce hPlace, meets_iff_of_place hCoerce hPlace, hOpposite,
    Bool.not_eq_true', Bool.not_eq_true]

/-- Every cell stands in a comparison, or is null or stands in its opposite. -/
theorem meets_iff_not_isNull_or_meets :
    c.Meets comparison v x ↔ ¬ ((x.cell c.name).isNull = true ∨ c.Meets opposite v x) := by
  cases hCell : (x.cell c.name).isNull with
  | true => simp [not_meets_of_isNull hCell]
  | false => simpa using meets_iff_not_meets hOrdered hSome hTakes hNumber hOpposite hCell

end

end Column

namespace Filter

namespace Period

/-- Does the fragment bound as it is, because it is neither a month nor a day? -/
def IsPlain (s : String) : Prop := month? s.toList = none ∧ isDay s.toList = false

theorem bound_of_isPlain {s : String} (h : IsPlain s) (upper : Bool) : bound upper s = .ok s := by
  unfold bound
  simp [h.1, h.2]

theorem bounds_of_isPlain {v : Value} {s t : String} (hs : IsPlain s) (ht : IsPlain t)
    (hItems : v.splitList = [.text s, .text t]) : bounds v = .ok (s, t) := by
  have hLower : bound false (Value.text s).display = .ok s := bound_of_isPlain hs false
  have hUpper : bound true (Value.text t).display = .ok t := bound_of_isPlain ht true
  rw [bounds, hItems]
  simp only [hLower, hUpper]
  rfl

end Period

/-- The order comparisons that do not let null in, and those that let it in on the other side. -/
def complements : List (Operator × Operator) :=
  [(.lessEqual, .greaterOrNull), (.greaterEqual, .lessOrNull)]

/-- The comparisons and their opposites. -/
def opposites : List (Operator × Operator) :=
  [(.equal, .notEqual), (.less, .greaterEqual), (.greater, .lessEqual)]

/-- The operators that do not select a row with null. -/
def nullDroppers : List Operator :=
  [.equal, .notEqual, .less, .lessEqual, .greater, .greaterEqual, .among, .notAmong, .between]

variable {db : Database} {o : Options} {m : Model} {dialect : String} {key v : Value}
  {op : Operator} {c : Column} {rows rest : List Row} {r : Row}

section

variable (hOrdered : c.kind.isOrdered = true) (hSome : v ≠ .null) (hTakes : c.Takes v)
  (hNumber : ¬ c.MakesNaN v)

include hOrdered hSome hTakes hNumber

theorem passes_complement_iff {p : Operator × Operator} (hPair : p ∈ complements) :
    c.Passes p.1 v r ↔ ¬ c.Passes p.2 v r := by
  simp only [complements, List.mem_cons, List.not_mem_nil, or_false] at hPair
  rcases hPair with rfl | rfl
  · exact Column.meets_iff_not_isNull_or_meets hOrdered hSome hTakes hNumber (by decide)
  · exact Column.meets_iff_not_isNull_or_meets hOrdered hSome hTakes hNumber (by decide)

theorem passes_opposite_iff {p : Operator × Operator} (hPair : p ∈ opposites)
    (hTrimmed : v.trimmed = v) (hCell : (r.cell c.name).isNull = false) :
    c.Passes p.1 v r ↔ ¬ c.Passes p.2 v r := by
  simp only [opposites, List.mem_cons, List.not_mem_nil, or_false] at hPair
  rcases hPair with rfl | rfl | rfl
  · simp only [Column.Passes, hTrimmed]
    exact Column.meets_iff_not_meets hOrdered hSome hTakes hNumber (by decide) hCell
  · exact Column.meets_iff_not_meets hOrdered hSome hTakes hNumber (by decide) hCell
  · exact Column.meets_iff_not_meets hOrdered hSome hTakes hNumber (by decide) hCell

end

/-- A column of the table itself is tested on the row itself. -/
theorem Options.Selects.mem_iff_passes (hKey : o.Reaches db.schema m key [] m c)
    (h : o.Selects db m dialect key op v rows) (hCompares : op.compares = true)
    (hSays : saysNothing op v = false) : r ∈ rows ↔ r ∈ db.rows m ∧ c.Passes op v r := by
  rw [h.mem_iff hKey hCompares hSays]
  simp only [Database.chain_nil_iff, exists_eq_left]

/-- No operator of these tests null successfully. -/
theorem not_passes_of_isNull (hOp : op ∈ nullDroppers) (hSays : saysNothing op v = false)
    (hNull : (r.cell c.name).isNull = true) : ¬ c.Passes op v r := by
  have hNever {comparison : Comparison} {a : Value} : ¬ c.Meets comparison a r :=
    Column.not_meets_of_isNull hNull
  cases op with
  | equal | notEqual | less | lessEqual | greater | greaterEqual => exact hNever
  | among => exact fun ⟨_, _, hMeets⟩ => hNever hMeets
  | notAmong =>
    -- there is a value to be told from
    obtain ⟨a, ha⟩ := List.exists_mem_of_ne_nil _ (splitList_ne_nil (.inr rfl) hSays)
    exact fun hAll => hNever (hAll a ha)
  | between => exact fun ⟨_, _, _, hMeets, _⟩ => hNever hMeets
  | greaterOrNull | lessOrNull | like | notNull | json => simp [nullDroppers] at hOp

section

variable (hKey : o.Reaches db.schema m key [] m c)

include hKey

/-- The store has taken what the column makes of a single argument. -/
theorem takes_of_comparesOne (h : o.Selects db m dialect key op v rows)
    (hOne : op.comparesOne = true) (hBlank : v.isBlank = false) (hTrimmed : v.trimmed = v) :
    c.Takes v := by
  have hSays := (saysNothing_eq_isBlank hOne).trans hBlank
  have hTakes := h.takes hKey (compares_of_comparesOne hOne) hSays
  rw [operands_eq_singleton hOne hTrimmed] at hTakes
  exact hTakes v List.mem_cons_self

/-- Operators that ask the opposite of a row share it. -/
theorem mem_iff_not_mem {opposite : Operator} (h : o.Selects db m dialect key op v rows)
    (hRest : o.Selects db m dialect key opposite v rest) (hCompares : op.compares = true)
    (hCompares' : opposite.compares = true) (hSays : saysNothing op v = false)
    (hSays' : saysNothing opposite v = false) (hRow : r ∈ db.rows m)
    (hPasses : c.Passes op v r ↔ ¬ c.Passes opposite v r) : r ∈ rows ↔ r ∉ rest := by
  rw [h.mem_iff_passes hKey hCompares hSays, hRest.mem_iff_passes hKey hCompares' hSays',
    and_iff_right hRow, and_iff_right hRow, hPasses]

/-- **An order comparison and its complement**, which lets null in, share the rows. -/
theorem mem_complement_iff {p : Operator × Operator} (hPair : p ∈ complements)
    (hBlank : v.isBlank = false) (hTrimmed : v.trimmed = v) (hNumber : ¬ c.MakesNaN v)
    (h : o.Selects db m dialect key p.1 v rows) (hRest : o.Selects db m dialect key p.2 v rest)
    (hRow : r ∈ db.rows m) : r ∈ rows ↔ r ∉ rest := by
  have hOnes : ∀ p ∈ complements, p.1.comparesOne = true ∧ p.2.comparesOne = true := by decide
  obtain ⟨hOne, hOne'⟩ := hOnes p hPair
  have hTakes := takes_of_comparesOne hKey h hOne hBlank hTrimmed
  refine mem_iff_not_mem hKey h hRest (compares_of_comparesOne hOne)
    (compares_of_comparesOne hOne') ((saysNothing_eq_isBlank hOne).trans hBlank)
    ((saysNothing_eq_isBlank hOne').trans hBlank) hRow ?_
  exact passes_complement_iff hKey.ordered (ne_null_of_not_isBlank hBlank) hTakes hNumber hPair

/-- **A comparison and its opposite** share the rows with something in the column. -/
theorem mem_opposite_iff {p : Operator × Operator} (hPair : p ∈ opposites)
    (hBlank : v.isBlank = false) (hTrimmed : v.trimmed = v) (hNumber : ¬ c.MakesNaN v)
    (h : o.Selects db m dialect key p.1 v rows) (hRest : o.Selects db m dialect key p.2 v rest)
    (hRow : r ∈ db.rows m) (hCell : (r.cell c.name).isNull = false) : r ∈ rows ↔ r ∉ rest := by
  have hOnes : ∀ p ∈ opposites, p.1.comparesOne = true ∧ p.2.comparesOne = true := by decide
  obtain ⟨hOne, hOne'⟩ := hOnes p hPair
  have hTakes := takes_of_comparesOne hKey h hOne hBlank hTrimmed
  refine mem_iff_not_mem hKey h hRest (compares_of_comparesOne hOne)
    (compares_of_comparesOne hOne') ((saysNothing_eq_isBlank hOne).trans hBlank)
    ((saysNothing_eq_isBlank hOne').trans hBlank) hRow ?_
  exact passes_opposite_iff hKey.ordered (ne_null_of_not_isBlank hBlank) hTakes hNumber hPair
    hTrimmed hCell

/-- **A list and its opposite** share the rows with something in the column. -/
theorem mem_notAmong_iff (hSays : saysNothing .among v = false)
    (hNumbers : ∀ a ∈ v.splitList, ¬ c.MakesNaN a)
    (h : o.Selects db m dialect key .among v rows)
    (hRest : o.Selects db m dialect key .notAmong v rest)
    (hRow : r ∈ db.rows m) (hCell : (r.cell c.name).isNull = false) : r ∈ rows ↔ r ∉ rest := by
  have hTakes := h.takes hKey rfl hSays
  have hItem : ∀ a ∈ v.splitList, (c.Meets .equal a r ↔ ¬ c.Meets .notEqual a r) := fun a ha =>
    Column.meets_iff_not_meets hKey.ordered (ne_null_of_mem_splitList ha) (hTakes a ha)
      (hNumbers a ha) (by decide) hCell
  refine mem_iff_not_mem hKey h hRest rfl rfl hSays hSays hRow ?_
  simp only [Column.Passes, not_forall, exists_prop]
  exact exists_congr fun a => and_congr_right fun ha => hItem a ha

/-- **A period** whose bounds are neither months nor days selects what its bounds select both. -/
theorem mem_between_iff {s t : String} {lower upper : List Row} (hs : Text.IsPiece s)
    (ht : Text.IsPiece t) (hsPlain : Period.IsPlain s) (htPlain : Period.IsPlain t)
    (hLists : v.Lists [s, t]) (h : o.Selects db m dialect key .between v rows)
    (hLower : o.Selects db m dialect key .greaterEqual (.text s) lower)
    (hUpper : o.Selects db m dialect key .lessEqual (.text t) upper) :
    r ∈ rows ↔ r ∈ lower ∧ r ∈ upper := by
  have hPieces : ∀ a ∈ [s, t], Text.IsPiece a :=
    List.forall_mem_cons.mpr ⟨hs, List.forall_mem_singleton.mpr ht⟩
  have hItems := Value.splitList_of_lists (List.cons_ne_nil s [t]) hPieces hLists
  have hBounds := Period.bounds_of_isPlain hsPlain htPlain hItems
  have hBlank := Value.isBlank_of_lists (List.cons_ne_nil s [t]) hPieces hLists
  rw [h.mem_iff_passes hKey rfl ((Bool.or_false _).trans hBlank),
    hLower.mem_iff_passes hKey rfl ((Bool.or_false _).trans hs.visible),
    hUpper.mem_iff_passes hKey rfl ((Bool.or_false _).trans ht.visible)]
  simp only [Column.Passes, hBounds]
  constructor
  · rintro ⟨hRow, _, _, ⟨rfl, rfl⟩, hMeets, hMeets'⟩
    exact ⟨⟨hRow, hMeets⟩, hRow, hMeets'⟩
  · rintro ⟨⟨hRow, hMeets⟩, -, hMeets'⟩
    exact ⟨hRow, _, _, rfl, hMeets, hMeets'⟩

end

/-- **The complement laws.** Let a key name an ordered column of the model itself, and let the store
answer all that is asked.

With a trimmed argument that says something, and of which the column does not make a number that is
none, every row is selected by an order comparison or by the one that lets null in on the other
side, and by one only. A row that is not null there is selected by a comparison or by its opposite,
and by one only, and so with a list of such arguments. A row that is null there is selected by no
operator that does not let null in. A period whose bounds are neither months nor days selects the
rows that both its bounds select. A blank argument is not refused, and every operator that takes an
argument selects every row with it. -/
theorem complement_laws (o : Options) (db : Database) (m : Model) (dialect : String) (key : Value)
    (c : Column) (hKey : o.Reaches db.schema m key [] m c) :
    (∀ v : Value, v.isBlank = false → v.trimmed = v → ¬ c.MakesNaN v →
      (∀ p ∈ complements, ∀ rows rest, o.Selects db m dialect key p.1 v rows →
        o.Selects db m dialect key p.2 v rest → ∀ r ∈ db.rows m, (r ∈ rows ↔ r ∉ rest)) ∧
      (∀ p ∈ opposites, ∀ rows rest, o.Selects db m dialect key p.1 v rows →
        o.Selects db m dialect key p.2 v rest →
        ∀ r ∈ db.rows m, (r.cell c.name).isNull = false → (r ∈ rows ↔ r ∉ rest))) ∧
    (∀ v : Value, saysNothing .among v = false → (∀ a ∈ v.splitList, ¬ c.MakesNaN a) →
      ∀ rows rest, o.Selects db m dialect key .among v rows →
        o.Selects db m dialect key .notAmong v rest →
        ∀ r ∈ db.rows m, (r.cell c.name).isNull = false → (r ∈ rows ↔ r ∉ rest)) ∧
    (∀ (v : Value), ∀ op ∈ nullDroppers, saysNothing op v = false →
      ∀ rows, o.Selects db m dialect key op v rows →
        ∀ r, (r.cell c.name).isNull = true → r ∉ rows) ∧
    (∀ (s t : String) (v : Value), Text.IsPiece s → Text.IsPiece t →
      Period.IsPlain s → Period.IsPlain t → v.Lists [s, t] →
      ∀ rows lower upper, o.Selects db m dialect key .between v rows →
        o.Selects db m dialect key .greaterEqual (.text s) lower →
        o.Selects db m dialect key .lessEqual (.text t) upper →
        ∀ r, r ∈ rows ↔ r ∈ lower ∧ r ∈ upper) ∧
    (∀ v : Value, v.isBlank = true → ∀ op, op ≠ .notNull →
      (∃ rows, o.Selects db m dialect key op v rows) ∧
      ∀ rows, o.Selects db m dialect key op v rows → ∀ r, r ∈ rows ↔ r ∈ db.rows m) := by
  refine ⟨?_, ?_, ?_, ?_, ?_⟩
  · intro v hBlank hTrimmed hNumber
    constructor
    · intro p hPair rows rest h hRest r hRow
      exact mem_complement_iff hKey hPair hBlank hTrimmed hNumber h hRest hRow
    · intro p hPair rows rest h hRest r hRow hCell
      exact mem_opposite_iff hKey hPair hBlank hTrimmed hNumber h hRest hRow hCell
  · intro v hSays hNumbers rows rest h hRest r hRow hCell
    exact mem_notAmong_iff hKey hSays hNumbers h hRest hRow hCell
  · intro v op hOp hSays rows h r hNull hMem
    have hCompares : ∀ op ∈ nullDroppers, op.compares = true := by decide
    have hPasses := (h.mem_iff_passes hKey (hCompares op hOp) hSays).mp hMem
    exact not_passes_of_isNull hOp hSays hNull hPasses.2
  · intro s t v hs ht hsPlain htPlain hLists rows lower upper h hLower hUpper r
    exact mem_between_iff hKey hs ht hsPlain htPlain hLists h hLower hUpper
  · intro v hBlank op hTakes
    constructor
    · exact hKey.exists_selects_of_isBlank hBlank hTakes
    · intro rows h
      exact h.mem_iff_of_isBlank hKey hBlank hTakes

theorem reaches_stock : Options.default.Reaches Sample.shop.schema Sample.product
    (.text "stock") [] Sample.product stockColumn where
  edits := rfl
  field := by decide
  read := FieldPath.read_eq_ok_iff.mpr (by decide)
  follow := rfl
  column := rfl
  ordered := rfl

/-- The keys of the products with such a stock. -/
def stockKeys (op : Operator) (s : String) : List Int :=
  ((productsWith (.text "stock") op (.text s)).1.matching Sample.shop).map (·.key)

theorem stockKeys_eq (op : Operator) (s : String) : stockKeys op s =
    ((productsAlong [] "stock" op (.text s)).1.matching Sample.shop).map (·.key) := by
  rw [stockKeys, productsWith_eq reaches_stock]
  rfl

/-- One pair of each kind, a period and a blank argument, on a column where two rows are null. -/
theorem complement_laws_stock :
    let rows op s := (productsWith (.text "stock") op (.text s)).1.ordered Sample.shop
    (stockKeys .lessEqual "10" = [2, 6, 7, 8] ∧ stockKeys .greaterOrNull "10" = [1, 3, 4, 5, 9] ∧
      ∀ r ∈ Sample.shop.rows Sample.product,
        (r ∈ rows .lessEqual "10" ↔ r ∉ rows .greaterOrNull "10")) ∧
    (stockKeys .equal "15" = [3, 4] ∧ stockKeys .notEqual "15" = [2, 6, 7, 8, 9] ∧
      ∀ r ∈ Sample.shop.rows Sample.product, (r.cell "stock").isNull = false →
        (r ∈ rows .equal "15" ↔ r ∉ rows .notEqual "15")) ∧
    (stockKeys .among "5,15" = [2, 3, 4] ∧ stockKeys .notAmong "5,15" = [6, 7, 8, 9] ∧
      ∀ r ∈ Sample.shop.rows Sample.product, (r.cell "stock").isNull = false →
        (r ∈ rows .among "5,15" ↔ r ∉ rows .notAmong "5,15")) ∧
    (∀ r, (r.cell "stock").isNull = true → r ∉ rows .notAmong "5,15") ∧
    (stockKeys .between "0,10" = [2, 6, 8] ∧
      ∀ r, r ∈ rows .between "0,10" ↔ r ∈ rows .greaterEqual "0" ∧ r ∈ rows .lessEqual "10") ∧
    (stockKeys .notEqual " " = [1, 2, 3, 4, 5, 6, 7, 8, 9] ∧
      ∀ r, r ∈ rows .notEqual " " ↔ r ∈ Sample.shop.rows Sample.product) := by
  intro rows
  obtain ⟨hValue, hList, hNull, hPeriod, hBlank⟩ := complement_laws Options.default Sample.shop
    Sample.product "sqlite" (.text "stock") stockColumn reaches_stock
  have hNumber (v : Value) (hSome : v ≠ .null) : ¬ stockColumn.MakesNaN v :=
    Column.not_makesNaN rfl nofun nofun hSome
  have hPlain : Period.IsPlain "0" ∧ Period.IsPlain "10" :=
    ⟨⟨by decide, by decide⟩, by decide, by decide⟩
  simp only [stockKeys_eq]
  refine ⟨⟨by decide, by decide, ?_⟩, ⟨by decide, by decide, ?_⟩,
    ⟨by decide +kernel, by decide +kernel, ?_⟩, ?_, ⟨by decide +kernel, ?_⟩, by decide +kernel, ?_⟩
  · exact (hValue (.text "10") (by decide) rfl (hNumber _ nofun)).1
      (.lessEqual, .greaterOrNull) (by decide) _ _
      (selects_productsWith reaches_stock (by decide +kernel))
      (selects_productsWith reaches_stock (by decide +kernel))
  · exact (hValue (.text "15") (by decide) rfl (hNumber _ nofun)).2
      (.equal, .notEqual) (by decide) _ _
      (selects_productsWith reaches_stock (by decide +kernel))
      (selects_productsWith reaches_stock (by decide +kernel))
  · exact hList (.text "5,15") (by decide)
      (fun a ha => hNumber a (ne_null_of_mem_splitList ha)) _ _
      (selects_productsWith reaches_stock (by decide +kernel))
      (selects_productsWith reaches_stock (by decide +kernel))
  · exact hNull (.text "5,15") .notAmong (by decide) (by decide) _
      (selects_productsWith reaches_stock (by decide +kernel))
  · exact hPeriod "0" "10" (.text "0,10")
      ⟨by decide, by decide, by decide⟩
      ⟨by decide, by decide, by decide⟩ hPlain.1 hPlain.2 .text _ _ _
      (selects_productsWith reaches_stock (by decide +kernel))
      (selects_productsWith reaches_stock (by decide +kernel))
      (selects_productsWith reaches_stock (by decide +kernel))
  · exact (hBlank (.text " ") (by decide) .notEqual nofun).2 _
      (selects_productsWith reaches_stock (by decide +kernel))

/-- The column of the name. -/
def nameColumn : Column := ⟨"name", .text⟩

theorem reaches_name : Options.default.Reaches Sample.shop.schema Sample.product (.text "name") []
    Sample.product nameColumn where
  edits := rfl
  field := by decide
  read := FieldPath.read_eq_ok_iff.mpr (by decide)
  follow := rfl
  column := rfl
  ordered := rfl

/-- **A blank argument has no complement**: both order comparisons of a pair select every row. -/
theorem blank_is_no_complement :
    Options.default.Reaches Sample.shop.schema Sample.product (.text "name") [] Sample.product
      nameColumn ∧
    (Value.text "").trimmed = .text "" ∧ ¬ nameColumn.MakesNaN (.text "") ∧
    ∃ rows rest,
      Options.default.Selects Sample.shop Sample.product "sqlite" (.text "name") .lessEqual
        (.text "") rows ∧
      Options.default.Selects Sample.shop Sample.product "sqlite" (.text "name") .greaterOrNull
        (.text "") rest ∧
      (∀ r ∈ Sample.shop.rows Sample.product, r ∈ rows ∧ r ∈ rest) ∧
      ¬ ∀ r ∈ Sample.shop.rows Sample.product, (r ∈ rows ↔ r ∉ rest) := by
  have hRows : Options.default.Selects Sample.shop Sample.product "sqlite" (.text "name")
      .lessEqual (.text "") _ := selects_productsWith reaches_name (by decide +kernel)
  have hRest : Options.default.Selects Sample.shop Sample.product "sqlite" (.text "name")
      .greaterOrNull (.text "") _ := selects_productsWith reaches_name (by decide +kernel)
  have hAll (r : Row) (hRow : r ∈ Sample.shop.rows Sample.product) :=
    And.intro ((hRows.mem_iff_of_isBlank reaches_name rfl nofun r).mpr hRow)
      ((hRest.mem_iff_of_isBlank reaches_name rfl nofun r).mpr hRow)
  refine ⟨reaches_name, rfl, Column.not_makesNaN rfl nofun nofun nofun, _, _, hRows, hRest, hAll,
    ?_⟩
  intro hShared
  obtain ⟨r, hRow⟩ := List.exists_mem_of_ne_nil (Sample.shop.rows Sample.product) nofun
  exact (hShared r hRow).mp (hAll r hRow).1 (hAll r hRow).2

end Filter

end Winnow
