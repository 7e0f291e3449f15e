import Winnow.Proofs.Filter.Entry
import Winnow.Proofs.Service.Pages
import Winnow.Proofs.Service.Projection
import Winnow.Proofs.Store.Sorted
import Winnow.Service.Options

/-!
# Winnow.Proofs.Service.Actions — the actions of a resource see the same rows

A search, an export and a list of options gather their selections each in its own way and read them
each in its own way. Where the resource confines and edits none of them (`HasPlainActions`), they
start from the rows that match the filters of the request (`actions_see_same_rows`):

* an export reads the page that the search reads, unless the request leaves the page size open
  (`HasPlainActions.exportPage_eq`); then its first page is large enough for all rows
  (`HasPlainActions.rows_of_exportPage`). What it writes of the rows are their projections on its
  columns (`Resource.IsExportOf`);
* options sort the rows by their label and cut them afterwards
  (`exists_sorted_of_optionSelection`), and neither the order nor the page that the request asks for
  plays a part.

Whether an action answers is a question of its own, since each of them has the store read another
statement. What is said here is said of actions that do.
-/

namespace Winnow

/-! ## Caps -/

namespace SearchRequest

variable (q : SearchRequest)

/-- The request without its cap. -/
def uncapped : SearchRequest := { q with limit? := none }

/-- The cap of the request: a positive number, all else is no cap. -/
def cap? : Option Nat := (q.limit?.filter (0 < ·)).map Int.toNat

/-- The first rows, up to the cap. -/
def cut {α : Type} (rows : List α) : List α :=
  match q.cap? with
  | some n => rows.take n
  | none => rows

theorem cut_eq_take {α : Type} (rows : List α) :
    q.cut rows = rows.take (Selection.reach q.cap? rows.length) := by
  rw [cut]
  cases q.cap? with
  | none => exact rows.take_length.symm
  | some n => rw [Selection.reach, Nat.min_comm, ← List.take_take, List.take_length]

end SearchRequest

namespace Selection

variable {db : Database} {s : Selection} {cap? : Option Nat} {rows : List Row}

/-- The rows that a selection shows under a cap. -/
theorem rows_of_all (h : (s.withCap cap?).all db = .ok rows) :
    rows = (s.ordered db).take (reach cap? (s.ordered db).length) := by
  cases cap? with
  | none =>
    rw [reach, List.take_length]
    exact ((all_eq_ok_iff (s := s.withCap none) rfl).mp h).2
  | some n =>
    obtain ⟨⟨⟩, -, h⟩ := bind_eq_ok_iff.mp h
    rw [reach, Nat.min_comm, ← List.take_take, List.take_length, ← Except.ok.inj h]
    exact window_ofNat (s.ordered db) n 0

/-- The rows of the first page under a cap. -/
theorem rows_of_page (perPage : Nat) (h : (s.withCap cap?).page db perPage 1 = .ok rows) :
    rows = (s.ordered db).take (reach cap? perPage) := by
  have hOffset : ((1 : Int) - 1) * perPage = (0 : Nat) := by simp
  have hSize := pageSize_withCap s cap? perPage 0
  rw [Nat.zero_add, Nat.sub_zero] at hSize
  rw [page] at h
  simp only [hOffset, hSize] at h
  split at h
  · rename_i hEmpty
    rw [Int.natCast_eq_zero.mp hEmpty, ← Except.ok.inj h]
    rfl
  · obtain ⟨⟨⟩, -, h⟩ := bind_eq_ok_iff.mp h
    rw [← Except.ok.inj h]
    exact window_ofNat (s.ordered db) (reach cap? perPage) 0

end Selection

/-! ## What a build gives -/

namespace Paginator

variable {ρ : Type} {src : Source ρ} {request : PageRequest} {p : Paginator}

/-- A build in full mode that succeeds has the values of all rows. -/
theorem rows_of_result_full (hSkip : request.skip = true) (h : (build src request).result = .ok p) :
    serializeAll src request.serializer src.all = .ok p.rows := by
  rw [result_full hSkip] at h
  cases hRows : serializeAll src request.serializer src.all with
  | error e =>
    rw [hRows] at h
    cases h
  | ok rows =>
    rw [hRows] at h
    rw [← Except.ok.inj h]

/-- A build in paged mode that succeeds has the values of one page. -/
theorem rows_of_result_page {perPage page : Int} (hSkip : request.skip = false)
    (hSize : pageSize request.perPage = .ok perPage) (hPage : pageNumber request.page = .ok page)
    (h : (build src request).result = .ok p) :
    serializeAll src request.serializer (src.page perPage page) = .ok p.rows := by
  rw [build, hSkip, if_neg Bool.false_ne_true, buildPage, hSize, hPage] at h
  dsimp only at h
  cases hCount : src.count with
  | error e => simp [hCount, Built.failed, Built.result] at h
  | ok count =>
    cases hRows : serializeAll src request.serializer (src.page perPage page) with
    | error e => simp [hCount, hRows, Built.failed, Built.result] at h
    | ok rows =>
      cases hPages : pagesCount count perPage with
      | error e => simp [hCount, hRows, hPages, Built.result] at h
      | ok pages =>
        simp only [hCount, hRows, hPages, Built.result, Except.ok.injEq] at h
        rw [← h]

end Paginator

/-! ## The rows of an action -/

namespace Resource

variable {db : Database} {r : Resource} {q : SearchRequest} {scope : List Step}
  {filtered s t : Selection} {p : Paginator}

/-- Are the three actions left as they are? None is confined to a scope, the list of options is not
edited, and exports use the serializer of searches. -/
structure HasPlainActions (r : Resource) : Prop where
  searchScope : r.searchScope = []
  exportScope : r.exportScope = []
  optionsScope : r.optionsScope = []
  optionEdits : r.optionEdits = []
  exportSerializer : r.exportSerializer = r.serializer

/-- Filters gather conditions for the rows of the model and nothing else. -/
theorem exists_gather_of_filtered (h : r.filtered db [] q = .ok filtered) :
    ∃ conditions, filtered =
      (Selection.ofModel r.model Database.dialect).gather conditions := by
  obtain ⟨start, hStart, hFilters⟩ := bind_eq_ok_iff.mp h
  obtain rfl : Selection.ofModel r.model Database.dialect = start := Except.ok.inj hStart
  exact Selection.exists_gather_of_callAll Filter.Options.isFilter_of_mem_calls rfl
    (Selection.callAll?_eq_ok_iff.mp hFilters)

/-- A request caps a selection without a cap, if it asks for one. -/
theorem callAll?_cap (hUncapped : s.cap = none) :
    s.callAll? db.schema (capCalls q) = .ok (s.withCap q.cap?) := by
  by_cases hCap : ∃ n, q.limit? = some n ∧ 0 < n
  · obtain ⟨n, hLimit, hPositive⟩ := hCap
    have hCap : q.cap? = some n.toNat := by simp [SearchRequest.cap?, hLimit, hPositive]
    rw [hCap]
    refine callAll?_capCalls hUncapped ?_ ?_
    · rw [hLimit, Option.map_some, Int.ofNat_eq_natCast, Int.toNat_of_nonneg hPositive.le]
    · rintro c ⟨⟩
      omega
  · have hNoCap : q.cap? = none ∧ capCalls q = [] := by
      cases hLimit : q.limit? with
      | none => simp [SearchRequest.cap?, capCalls, hLimit]
      | some n =>
        have hNot : n ≤ 0 := not_lt.mp fun hPositive => hCap ⟨n, hLimit, hPositive⟩
        simp [SearchRequest.cap?, capCalls, Value.capCalls, hLimit, hNot]
    have hSame : s.withCap none = s := by rw [Selection.withCap, Option.map_none, ← hUncapped]
    rw [hNoCap.1, hNoCap.2, hSame]
    rfl

/-- **A selection** is what the filters select, in an order, under the cap. -/
theorem exists_order_of_selection (h : r.selection db [] q = .ok s) :
    ∃ filtered order, r.filtered db [] q = .ok filtered ∧
      s = ({ filtered with order := order } : Selection).withCap q.cap? := by
  obtain ⟨filtered, hFiltered, h⟩ := bind_eq_ok_iff.mp h
  obtain ⟨ordered, hOrdered, h⟩ := bind_eq_ok_iff.mp h
  obtain ⟨conditions, hGather⟩ := exists_gather_of_filtered hFiltered
  obtain ⟨order, rfl⟩ := Selection.exists_order_of_callAll? (Selection.sortCalls_are_orders _) hOrdered
  have hUncapped : filtered.cap = none := by rw [hGather]; rfl
  rw [callAll?_cap (s := { filtered with order := order }) hUncapped] at h
  exact ⟨filtered, order, hFiltered, (Except.ok.inj h).symm⟩

/-- What is read in full mode. -/
theorem exists_rows_of_scan {perPage : Value} {serializer : String} (hSkip : q.skipPagination = true)
    (h : paginate db s perPage serializer q = .ok p) :
    ∃ rows, s.all db = .ok rows ∧ rows.mapM (db.serialize s.model serializer) = .ok p.rows := by
  have hRows : Paginator.serializeAll (s.source db) serializer (s.all db) = .ok p.rows :=
    Paginator.rows_of_result_full hSkip h
  exact bind_eq_ok_iff.mp hRows

/-- What is read of the first page. -/
theorem exists_rows_of_firstPage {perPage : Value} {size : Int} {serializer : String}
    (hSkip : q.skipPagination = false)
    (hSize : Paginator.pageSize ((q.perPage?.map Value.int).getD perPage) = .ok size)
    (hPage : q.page = 1) (h : paginate db s perPage serializer q = .ok p) :
    ∃ rows, s.page db size 1 = .ok rows ∧
      rows.mapM (db.serialize s.model serializer) = .ok p.rows := by
  have hNumber : Paginator.pageNumber (.int q.page) = .ok 1 := by rw [hPage]; rfl
  have hRows : Paginator.serializeAll (s.source db) serializer (s.page db size 1) = .ok p.rows :=
    Paginator.rows_of_result_page hSkip hSize hNumber h
  exact bind_eq_ok_iff.mp hRows

/-- Where the request asks for no page, or for the size of its pages, no other size is read. -/
theorem paginate_eq (hRead : q.skipPagination = true ∨ q.perPage?.isSome = true) (db : Database)
    (s : Selection) (perPage perPage' : Value) (serializer : String) :
    paginate db s perPage serializer q = paginate db s perPage' serializer q := by
  rcases hRead with hSkip | hSize
  · rw [paginate, paginate, Paginator.result_full hSkip, Paginator.result_full hSkip]
  · obtain ⟨n, hSize⟩ := Option.isSome_iff_exists.mp hSize
    rw [paginate, paginate, hSize]
    rfl

/-! ## Exports -/

/-- A search answers with the page that it reads. -/
theorem search_of_searchPage (h : r.searchPage db q = .ok p) :
    r.search db q = .ok (answer p.rows [(.text "pagination", p.infoValue)]) :=
  bind_eq_ok_iff.mpr ⟨p, h, rfl⟩

/-- Answers that are the same have the same rows. -/
theorem rows_of_answer_eq {rows rows' : List Value} {about about' : List (Value × Value)}
    (h : answer rows about = answer rows' about') : rows = rows' := by
  simp only [answer, Value.mapping.injEq, List.cons.injEq, Prod.mk.injEq, Value.list.injEq,
    true_and] at h
  exact h.1

theorem exists_page_of_search {rows : List Value} {about : List (Value × Value)}
    (h : r.search db q = .ok (answer rows about)) :
    ∃ p, r.searchPage db q = .ok p ∧ p.rows = rows := by
  obtain ⟨p, hPage, h⟩ := bind_eq_ok_iff.mp h
  exact ⟨p, hPage, rows_of_answer_eq (Except.ok.inj h)⟩

/-- **With a page size, or without pages**, an export reads what the search reads. -/
theorem HasPlainActions.exportPage_eq (h : r.HasPlainActions)
    (hRead : q.skipPagination = true ∨ q.perPage?.isSome = true) :
    r.exportPage db q = r.searchPage db q := by
  rw [exportPage, searchPage, h.exportScope, h.searchScope, h.exportSerializer]
  simp only [paginate_eq hRead db _ (.int Settings.exportPerPage) r.perPage]

/-- **The first page of an export** holds all rows at once, unless there are too many of them. -/
theorem HasPlainActions.rows_of_exportPage (h : r.HasPlainActions)
    (hSkip : q.skipPagination = false) (hSize : q.perPage? = none) (hPage : q.page = 1)
    (hFew : ∀ filtered, r.filtered db r.searchScope q = .ok filtered →
      (filtered.matching db).length ≤ Settings.exportPerPage)
    {scan : Paginator} (hScan : r.searchPage db q.atOnce = .ok scan)
    (hExport : r.exportPage db q = .ok p) : p.rows = scan.rows := by
  rw [searchPage, h.searchScope] at hScan
  rw [exportPage, h.exportScope, h.exportSerializer] at hExport
  obtain ⟨s, hSelection, hScan⟩ := bind_eq_ok_iff.mp hScan
  obtain ⟨t, hSelection', hExport⟩ := bind_eq_ok_iff.mp hExport
  obtain rfl : s = t := Except.ok.inj (hSelection.symm.trans hSelection')
  obtain ⟨filtered, order, hFiltered, rfl⟩ := exists_order_of_selection hSelection'
  -- all rows, and those of the first page, as windows of one list
  obtain ⟨all, hAll, hScan⟩ := exists_rows_of_scan (q := q.atOnce) rfl hScan
  have hPositive : Paginator.pageSize ((q.perPage?.map Value.int).getD (.int Settings.exportPerPage)) =
      .ok ((Settings.exportPerPage.toNat : Nat) : Int) := by
    rw [hSize]
    rfl
  obtain ⟨first, hFirst, hExport⟩ := exists_rows_of_firstPage hSkip hPositive hPage hExport
  rw [Selection.rows_of_all hAll] at hScan
  rw [Selection.rows_of_page _ hFirst] at hExport
  generalize hOrdered : Selection.ordered db { filtered with order := order } = ordered at hScan hExport
  have hLength : ordered.length ≤ Settings.exportPerPage.toNat := by
    have hMatching := hFew filtered (h.searchScope ▸ hFiltered)
    have hSame : (Selection.ordered db { filtered with order := order }).length =
        (filtered.matching db).length := (Selection.ordered_perm db _).length_eq
    rw [hOrdered] at hSame
    omega
  have hSame : ordered.take (Selection.reach q.cap? Settings.exportPerPage.toNat) =
      ordered.take (Selection.reach q.cap? ordered.length) := by
    rw [List.take_eq_take_iff]
    cases q.cap? with
    | none => simp only [Selection.reach]; omega
    | some n => simp only [Selection.reach]; omega
  rw [hSame] at hExport
  exact Except.ok.inj (hExport.symm.trans hScan)

/-! ## Options -/

/-- Is a value the choice that a row is: its cells of two columns in plain form? -/
def IsChoice (label value : Column) (row : Row) (choice : Value) : Prop :=
  ∃ shown offered, (row.cell label.name).read.plain? = some shown ∧
    (row.cell value.name).read.plain? = some offered ∧ choice = OptionEdit.choice shown offered

/-- Are the choices those of the rows: one for each row, in ascending order of the labels as the
store orders the column, up to the cap of the request? -/
def AreChoicesOf (q : SearchRequest) (label value : Column) (rows : List Row)
    (choices : List Value) : Prop :=
  ∃ sorted : List Row, sorted.Perm rows ∧
    sorted.Pairwise (fun a b => OrderKey.compareCells label.name a b ≠ .gt) ∧
    List.Forall₂ (IsChoice label value) (q.cut sorted) choices

/-- The rows that a search shows, before they are serialized. -/
def searchedRows (r : Resource) (db : Database) (q : SearchRequest) : Except Error (List Row) := do
  (← r.selection db r.searchScope q).all db

theorem plainCell_eq_ok_iff {c : Cell} {v : Value} :
    plainCell c = .ok v ↔ c.read.plain? = some v := by
  rw [plainCell]
  cases c.read.plain? <;> simp

theorem isChoice_of_rowChoice {label value : Column} {row : Row} {choice : Value}
    (h : rowChoice label value row = .ok choice) : IsChoice label value row choice := by
  obtain ⟨shown, hShown, h⟩ := bind_eq_ok_iff.mp h
  obtain ⟨offered, hOffered, h⟩ := bind_eq_ok_iff.mp h
  exact ⟨shown, offered, plainCell_eq_ok_iff.mp hShown, plainCell_eq_ok_iff.mp hOffered,
    (Except.ok.inj h).symm⟩

theorem requireColumn_eq_ok_iff {m : Model} {name : String} {c : Column} :
    requireColumn m name = .ok c ↔ m.column? (Text.snakeCase name) = some c := by
  rw [requireColumn]
  cases m.column? (Text.snakeCase name) <;> simp

theorem name_of_column {m : Model} {name : String} {c : Column}
    (h : Condition.column m name = .ok c) : c.name = name := by
  rw [Condition.column] at h
  cases hColumn : m.column? name with
  | none => simp [hColumn] at h
  | some found =>
    simp only [hColumn, Except.ok.injEq] at h
    rw [← h, Model.column?_name hColumn]

/-- **The rows that are choices** are sorted by the label before they are cut. -/
theorem exists_sorted_of_optionSelection {label : Column} {rows : List Row}
    (hScope : r.optionsScope = []) (hSelection : r.optionSelection db label q = .ok s)
    (hAll : s.all db = .ok rows) :
    ∃ filtered sorted, r.filtered db [] q = .ok filtered ∧ sorted.Perm (filtered.matching db) ∧
      sorted.Pairwise (fun a b => OrderKey.compareCells label.name a b ≠ .gt) ∧
      rows = q.cut sorted := by
  rw [optionSelection, hScope] at hSelection
  obtain ⟨filtered, hFiltered, hSelection⟩ := bind_eq_ok_iff.mp hSelection
  obtain ⟨ordered, hOrder, hSelection⟩ := bind_eq_ok_iff.mp hSelection
  obtain ⟨column, hColumn, hOrder⟩ := bind_eq_ok_iff.mp hOrder
  obtain ⟨hUncapped, hOrdered⟩ := Selection.uncapped_map_eq_ok_iff.mp hOrder
  have hStillUncapped : ordered.cap = none := by rw [hOrdered]; exact hUncapped
  have hMatching : ordered.matching db = filtered.matching db := by rw [hOrdered]; rfl
  -- filters set no order, so the label is the only key
  have hKeys : ordered.order = [⟨label.name, false⟩] := by
    have hAscending : Call.isDescending "ASC" = false := by decide
    obtain ⟨conditions, rfl⟩ := exists_gather_of_filtered hFiltered
    rw [hOrdered, name_of_column hColumn, hAscending]
    rfl
  obtain rfl := Except.ok.inj (hSelection.symm.trans (callAll?_cap hStillUncapped))
  refine ⟨filtered, ordered.ordered db, hFiltered, hMatching ▸ Selection.ordered_perm db ordered,
    ?_, ?_⟩
  · refine (Selection.pairwise_ordered db ordered).imp fun {a b} hAscends => ?_
    rw [hKeys, OrderKey.compareAll_cons, compareLex, OrderKey.compareAll, Ordering.then_eq,
      OrderKey.compare_eq] at hAscends
    exact hAscends
  · rw [SearchRequest.cut_eq_take]
    exact Selection.rows_of_all hAll

/-- Choices are told from the columns, the rows and nothing else, if the list is not edited. -/
theorem exists_rows_of_options {label? value? : Option String} {answered : Value}
    (h : r.HasPlainActions) (hOptions : r.options db label? value? q = .ok answered) :
    ∃ label value s rows choices,
      r.model.column? (Text.snakeCase (label?.getD "")) = some label ∧
      r.model.column? (Text.snakeCase (orDefault value? Settings.optionValue)) = some value ∧
      r.optionSelection db label q = .ok s ∧ s.all db = .ok rows ∧
      List.Forall₂ (IsChoice label value) rows choices ∧ answered = answer choices [] := by
  rw [options] at hOptions
  split at hOptions
  · cases hOptions
  · obtain ⟨label, hLabel, hOptions⟩ := bind_eq_ok_iff.mp hOptions
    obtain ⟨value, hValue, hOptions⟩ := bind_eq_ok_iff.mp hOptions
    obtain ⟨s, hSelection, hOptions⟩ := bind_eq_ok_iff.mp hOptions
    obtain ⟨rows, hAll, hOptions⟩ := bind_eq_ok_iff.mp hOptions
    obtain ⟨choices, hChoices, hOptions⟩ := bind_eq_ok_iff.mp hOptions
    rw [h.optionEdits] at hOptions
    refine ⟨label, value, s, rows, choices, requireColumn_eq_ok_iff.mp hLabel,
      requireColumn_eq_ok_iff.mp hValue, hSelection, hAll, ?_, (Except.ok.inj hOptions).symm⟩
    exact (mapM_eq_ok_iff.mp hChoices).imp fun _ _ => isChoice_of_rowChoice

/-- **The rows of a search** without a cap are those that match the filters. -/
theorem exists_searchedRows_of_search {values : List Value} {about : List (Value × Value)}
    (hScope : r.searchScope = []) (h : r.search db q.atOnce.uncapped = .ok (answer values about)) :
    ∃ filtered rows, r.filtered db [] q = .ok filtered ∧
      r.searchedRows db q.uncapped = .ok rows ∧ rows.Perm (filtered.matching db) ∧
      rows.mapM (db.serialize r.model r.serializer) = .ok values := by
  obtain ⟨p, hPage, rfl⟩ := exists_page_of_search h
  rw [searchPage, hScope] at hPage
  obtain ⟨s, hSelection, hPage⟩ := bind_eq_ok_iff.mp hPage
  obtain ⟨rows, hAll, hValues⟩ := exists_rows_of_scan (q := q.atOnce.uncapped) rfl hPage
  obtain ⟨filtered, order, hFiltered, rfl⟩ := exists_order_of_selection hSelection
  have hRows : rows = Selection.ordered db { filtered with order := order } :=
    ((Selection.all_eq_ok_iff rfl).mp hAll).2
  have hModel : filtered.model = r.model := model_of_filtered hFiltered
  refine ⟨filtered, rows, hFiltered, ?_, ?_, ?_⟩
  · rw [searchedRows, hScope]
    exact bind_eq_ok_iff.mpr ⟨_, hSelection, hAll⟩
  · rw [hRows]
    exact Selection.ordered_perm db _
  · rw [← hModel]
    exact hValues

/-! ## Main statement -/

/-- **The actions see the same rows.** Let a resource confine and edit none of its actions, and let
the actions that are compared answer a request.

1. If the request switches pages off or asks for a page size, the export writes the rows that the
   search gives, one record for each, in their order.
2. If it does neither, asks for the first page, and no more rows match the filters than an export
   has on a page, the export writes the rows that the search gives with pages switched off.
3. The options are made of the rows that the search shows without pages and without the cap: one
   choice for each, in ascending order of the label, and of these the first ones, up to the cap.
4. The order and the page that the request asks for make no difference to the options. -/
theorem actions_see_same_rows (db : Database) (r : Resource) (q : SearchRequest)
    (h : r.HasPlainActions) :
    (∀ rows about lines, q.skipPagination = true ∨ q.perPage?.isSome = true →
      r.search db q = .ok (answer rows about) → r.exportLines db q = .ok lines →
      r.IsExportOf db rows lines) ∧
    (∀ rows about lines, q.skipPagination = false → q.perPage? = none → q.page = 1 →
      (∀ filtered, r.filtered db r.searchScope q = .ok filtered →
        (filtered.matching db).length ≤ Settings.exportPerPage) →
      r.search db q.atOnce = .ok (answer rows about) → r.exportLines db q = .ok lines →
      r.IsExportOf db rows lines) ∧
    (∀ label? value? values about answered,
      r.search db q.atOnce.uncapped = .ok (answer values about) →
      r.options db label? value? q = .ok answered →
      ∃ label value rows choices,
        r.model.column? (Text.snakeCase (label?.getD "")) = some label ∧
        r.model.column? (Text.snakeCase (orDefault value? Settings.optionValue)) = some value ∧
        r.searchedRows db q.uncapped = .ok rows ∧
        rows.mapM (db.serialize r.model r.serializer) = .ok values ∧
        AreChoicesOf q label value rows choices ∧ answered = answer choices []) ∧
    ∀ label? value? sort page perPage? skip,
      r.options db label? value?
        { q with sort := sort, page := page, perPage? := perPage?, skipPagination := skip } =
      r.options db label? value? q := by
  refine ⟨?_, ?_, ?_, fun _ _ _ _ _ _ => rfl⟩
  · -- both read one page, and it is the same
    intro rows about lines hRead hSearch hExport
    obtain ⟨p, hPage, rfl⟩ := exists_page_of_search hSearch
    obtain ⟨p', hPage', hLines⟩ := exists_page_of_exportLines hExport
    rw [h.exportPage_eq hRead, hPage] at hPage'
    rw [Except.ok.inj hPage']
    exact hLines
  · -- the first page of an export holds all rows where they are few
    intro rows about lines hSkip hSize hFirst hFew hSearch hExport
    obtain ⟨scan, hScan, rfl⟩ := exists_page_of_search hSearch
    obtain ⟨p, hPage, hLines⟩ := exists_page_of_exportLines hExport
    rw [← h.rows_of_exportPage hSkip hSize hFirst hFew hScan hPage]
    exact hLines
  · intro label? value? values about answered hSearch hOptions
    obtain ⟨filtered, rows, hFiltered, hRows, hPerm, hValues⟩ :=
      exists_searchedRows_of_search h.searchScope hSearch
    obtain ⟨label, value, s, chosen, choices, hLabel, hValue, hSelection, hAll, hChoices, rfl⟩ :=
      exists_rows_of_options h hOptions
    -- the cap cuts the sorted choices, not the rows that they are made of
    obtain ⟨filtered', sorted, hFiltered', hSorted, hAscends, rfl⟩ :=
      exists_sorted_of_optionSelection h.optionsScope hSelection hAll
    obtain rfl : filtered = filtered' := Except.ok.inj (hFiltered.symm.trans hFiltered')
    exact ⟨label, value, rows, choices, hLabel, hValue, hRows, hValues,
      ⟨sorted, hSorted.trans hPerm.symm, hAscends, hChoices⟩, rfl⟩

/-! ## A sample -/

/-- The products on pages of this size, exported with their names and prices. -/
def pricedProducts (pageSize : Value) : Resource :=
  { plainProducts with
    pageSize := pageSize
    csvColumns := .mapping [(.text "name", .text "Name"), (.text "price", .text "Price")] }

theorem hasPlainActions_pricedProducts (pageSize : Value) :
    (pricedProducts pageSize).HasPlainActions :=
  ⟨rfl, rfl, rfl, rfl, rfl⟩

/-- A request for the active products, the dearest first, on pages of some size if it asks for one. -/
def dearRequest (limit? : Option Nat) (perPage? : Option Int) : SearchRequest :=
  { dearProducts limit? with perPage? := perPage? }

theorem accepts_dearRequest {pageSize : Value} {limit? : Option Nat} {perPage? : Option Int}
    {perPage : Nat} (hPositive : ∀ c ∈ limit?, 1 ≤ c)
    (hSize : (perPage?.map Value.int).getD (pricedProducts pageSize).perPage = .int perPage)
    (hSizePositive : 1 ≤ perPage) :
    (pricedProducts pageSize).Accepts Sample.shop (dearRequest limit? perPage?) activeSelection
      dearestFirst limit? perPage :=
  let h := accepts_dearProducts limit? hPositive
  { filters := h.filters
    order := h.order
    uncapped := h.uncapped
    answered := h.answered
    rows_lt := h.rows_lt
    limit := h.limit
    limit_pos := h.limit_pos
    size := hSize
    size_pos := hSizePositive }

/-- The active products from the dearest on, by their places among the active ones. -/
theorem ordered_dearestFirst : dearestFirst.ordered Sample.shop =
    [4, 2, 0, 1, 3].map fun i => (dearestFirst.matching Sample.shop)[i]! :=
  Selection.ordered_eq_of_places length_activeSelection (by decide) (by decide +kernel)

/-- The key that a record shows. -/
def recordKey? (record : Value) : Option Int := (record.attribute? "id").bind Value.asInt?

/-- The records of the active products from the dearest on, and their lines in an export. -/
theorem exists_records_dearestFirst :
    ∃ values,
      (dearestFirst.ordered Sample.shop).mapM (Sample.shop.serialize Sample.product "to_dict") =
        .ok values ∧
      values.map recordKey? = [some 9, some 4, some 1, some 2, some 5] ∧
      values.mapM (exportLine Sample.shop [.text "name", .text "price"]) =
        .ok ["12345,1000000000.99\n", "MacBook Air,1299.0\n", "Galaxy S24,999.0\n",
          "Galaxy A15,199.0\n", "Loose cable,9.0\n"] := by
  rw [ordered_dearestFirst]
  have hKeys : (do
      let values ← ([4, 2, 0, 1, 3].map fun i => (dearestFirst.matching Sample.shop)[i]!).mapM
        (Sample.shop.serialize Sample.product "to_dict")
      return values.map recordKey?) = .ok [some 9, some 4, some 1, some 2, some 5] := by
    decide +kernel
  have hLines : (do
      let values ← ([4, 2, 0, 1, 3].map fun i => (dearestFirst.matching Sample.shop)[i]!).mapM
        (Sample.shop.serialize Sample.product "to_dict")
      values.mapM (exportLine Sample.shop [.text "name", .text "price"])) =
        .ok ["12345,1000000000.99\n", "MacBook Air,1299.0\n", "Galaxy S24,999.0\n",
          "Galaxy A15,199.0\n", "Loose cable,9.0\n"] := by
    decide +kernel
  obtain ⟨values, hValues, hKeys⟩ := bind_eq_ok_iff.mp hKeys
  obtain ⟨values', hValues', hLines⟩ := bind_eq_ok_iff.mp hLines
  obtain rfl := Except.ok.inj (hValues.symm.trans hValues')
  exact ⟨values, hValues, Except.ok.inj hKeys, hLines⟩

/-- The export of a page: the titles and a line for each row. -/
theorem exportLines_of_exportPage {pageSize : Value} {p : Paginator} {q : SearchRequest}
    {lines : List String} (hPage : (pricedProducts pageSize).exportPage Sample.shop q = .ok p)
    (hLines : p.rows.mapM (exportLine Sample.shop [.text "name", .text "price"]) = .ok lines) :
    (pricedProducts pageSize).exportLines Sample.shop q = .ok ("Name,Price\n" :: lines) := by
  have hTitles : titleLines (.titled [(.text "name", .text "Name"), (.text "price", .text "Price")]) =
      ["Name,Price\n"] := by decide
  refine bind_eq_ok_iff.mpr ⟨p, hPage, bind_eq_ok_iff.mpr ⟨_, rfl, bind_eq_ok_iff.mpr
    ⟨lines, hLines, ?_⟩⟩⟩
  rw [hTitles]
  rfl

section Dearest

variable {values : List Value}
  (hValues : (dearestFirst.ordered Sample.shop).mapM (Sample.shop.serialize Sample.product "to_dict") =
    .ok values)
include hValues

/-- All rows of a request for the dearest products, up to its cap. -/
theorem exists_search_atOnce (limit? : Option Nat) (perPage? : Option Int) {perPage : Nat}
    (h : (pricedProducts .null).Accepts Sample.shop (dearRequest limit? perPage?) activeSelection
      dearestFirst limit? perPage) (hLimit : ∀ c ∈ limit?, c < 2 ^ 63) :
    ∃ about, (pricedProducts .null).search Sample.shop (dearRequest limit? perPage?).atOnce =
      .ok (answer (values.take (Selection.reach limit? 5)) about) := by
  have hLength : (dearestFirst.ordered Sample.shop).length = 5 :=
    h.length_ordered.trans length_activeSelection
  have hFirst := mapM_take_eq_ok hValues (Selection.reach limit? 5)
  have hScan := h.searchPage_atOnce hLimit
  rw [hLength] at hScan
  exact ⟨_, search_of_searchPage (hScan.trans (congrArg (Except.map _) hFirst))⟩

/-- The first page of a request for the three dearest products. -/
theorem exists_searchPage_dearest (pageSize : Value) (perPage? : Option Int) (perPage : Nat)
    (h : (pricedProducts pageSize).Accepts Sample.shop (dearRequest (some 3) perPage?)
      activeSelection dearestFirst (some 3) perPage) (hFits : perPage < 2 ^ 63) :
    ∃ p, (pricedProducts pageSize).searchPage Sample.shop (dearRequest (some 3) perPage?) = .ok p ∧
      p.rows = values.take (min perPage 3) := by
  obtain ⟨pages, hPages⟩ := h.exists_pagesCount
  have hFirst := mapM_pageOf hValues (some 3) perPage 0
  have hPage : (dearRequest (some 3) perPage?).onPage 0 = dearRequest (some 3) perPage? := rfl
  have hRead := h.searchPage_onPage hPages 0
  rw [h.answered.page_eq_pageOf (by omega)] at hRead
  refine ⟨_, hRead.trans (congrArg (Except.map _) hFirst), ?_⟩
  simp [pageOf, Selection.reach]

end Dearest

/-- The active products by name. -/
def byName : Selection := { activeSelection with order := [⟨"name", false⟩] }

/-- The active products by name, by their places among the active ones. -/
theorem ordered_byName : byName.ordered Sample.shop =
    [4, 1, 0, 3, 2].map fun i => (byName.matching Sample.shop)[i]! :=
  Selection.ordered_eq_of_places length_activeSelection (by decide) (by decide +kernel)

theorem options_dearRequest (perPage? : Option Int) :
    (pricedProducts .null).options Sample.shop (some "name") none (dearRequest (some 3) perPage?) =
      .ok (answer [OptionEdit.choice (.text "12345") (.int 9),
        OptionEdit.choice (.text "Galaxy A15") (.int 2),
        OptionEdit.choice (.text "Galaxy S24") (.int 1)] []) := by
  have hAnswered : byName.IsAnswered Sample.shop := isAnswered_activeSelection.withOrder (by decide)
  have hFiltered : (pricedProducts .null).filtered Sample.shop [] (dearRequest (some 3) perPage?) =
      .ok activeSelection := rfl
  have hSelection : (pricedProducts .null).optionSelection Sample.shop ⟨"name", .text⟩
      (dearRequest (some 3) perPage?) = .ok (byName.withCap (some 3)) := by
    refine bind_eq_ok_iff.mpr ⟨_, hFiltered, bind_eq_ok_iff.mpr ⟨byName, ?_, ?_⟩⟩
    · rfl
    · exact callAll?_capCalls rfl rfl (by decide)
  have hAll : (byName.withCap (some 3)).all Sample.shop = .ok _ := hAnswered.all_withCap (by decide)
  rw [ordered_byName] at hAll
  rw [options, if_neg (by decide)]
  exact bind_eq_ok_iff.mpr ⟨⟨"name", .text⟩, requireColumn_eq_ok_iff.mpr (by decide),
    bind_eq_ok_iff.mpr ⟨⟨"id", .integer⟩, requireColumn_eq_ok_iff.mpr (by decide),
    bind_eq_ok_iff.mpr ⟨_, hSelection, bind_eq_ok_iff.mpr ⟨_, hAll,
    bind_eq_ok_iff.mpr ⟨_, rfl, rfl⟩⟩⟩⟩⟩

/-- Of the five active products the three dearest are asked for. On a page of two, the search and the
export show two of them; without a page size, the export shows all three. As options by name, three
of the five are offered, whatever the order and the page. -/
theorem actions_see_same_rows_pricedProducts :
    (∃ rows about,
      (pricedProducts .null).search Sample.shop (dearRequest (some 3) (some 2)) =
        .ok (answer rows about) ∧
      rows.map recordKey? = [some 9, some 4] ∧
      (pricedProducts .null).exportLines Sample.shop (dearRequest (some 3) (some 2)) =
        .ok ["Name,Price\n", "12345,1000000000.99\n", "MacBook Air,1299.0\n"] ∧
      (pricedProducts .null).IsExportOf Sample.shop rows
        ["Name,Price\n", "12345,1000000000.99\n", "MacBook Air,1299.0\n"]) ∧
    (∃ rows about,
      (pricedProducts .null).search Sample.shop (dearRequest (some 3) none).atOnce =
        .ok (answer rows about) ∧
      rows.map recordKey? = [some 9, some 4, some 1] ∧
      (pricedProducts .null).exportLines Sample.shop (dearRequest (some 3) none) =
        .ok ["Name,Price\n", "12345,1000000000.99\n", "MacBook Air,1299.0\n",
          "Galaxy S24,999.0\n"] ∧
      (pricedProducts .null).IsExportOf Sample.shop rows
        ["Name,Price\n", "12345,1000000000.99\n", "MacBook Air,1299.0\n",
          "Galaxy S24,999.0\n"]) ∧
    (∃ values about rows choices,
      (pricedProducts .null).search Sample.shop (dearRequest (some 3) none).atOnce.uncapped =
        .ok (answer values about) ∧
      values.map recordKey? = [some 9, some 4, some 1, some 2, some 5] ∧
      (pricedProducts .null).options Sample.shop (some "name") none (dearRequest (some 3) none) =
        .ok (answer choices []) ∧
      choices = [OptionEdit.choice (.text "12345") (.int 9),
        OptionEdit.choice (.text "Galaxy A15") (.int 2),
        OptionEdit.choice (.text "Galaxy S24") (.int 1)] ∧
      (pricedProducts .null).searchedRows Sample.shop (dearRequest (some 3) none).uncapped =
        .ok rows ∧
      AreChoicesOf (dearRequest (some 3) none) ⟨"name", .text⟩ ⟨"id", .integer⟩ rows choices) ∧
    (pricedProducts .null).options Sample.shop (some "name") none
        { dearRequest (some 3) none with sort := "name", page := 7 } =
      (pricedProducts .null).options Sample.shop (some "name") none (dearRequest (some 3) none) := by
  have hPlain := hasPlainActions_pricedProducts .null
  obtain ⟨hPaged, -, -, -⟩ :=
    actions_see_same_rows Sample.shop _ (dearRequest (some 3) (some 2)) hPlain
  obtain ⟨-, hWhole, hOptions, hSame⟩ :=
    actions_see_same_rows Sample.shop _ (dearRequest (some 3) none) hPlain
  have hAccepts : (pricedProducts .null).Accepts Sample.shop (dearRequest (some 3) none)
      activeSelection dearestFirst (some 3) 40 := accepts_dearRequest (by decide) rfl (by decide)
  obtain ⟨values, hValues, hKeys, hLines⟩ := exists_records_dearestFirst
  have hFirstKeys (n : Nat) : (values.take n).map recordKey? =
      [some 9, some 4, some 1, some 2, some 5].take n := by
    rw [List.map_take, hKeys]
  refine ⟨?_, ?_, ?_, hSame _ _ _ _ _ _⟩
  · obtain ⟨p, hPage, hRows⟩ := exists_searchPage_dearest hValues .null (some 2) 2
      (accepts_dearRequest (by decide) rfl (by decide)) (by decide)
    have hExport := exportLines_of_exportPage
      ((hPlain.exportPage_eq (q := dearRequest (some 3) (some 2)) (Or.inr rfl)).trans hPage)
      (hRows ▸ mapM_take_eq_ok hLines 2)
    have hSearch := search_of_searchPage hPage
    exact ⟨_, _, hSearch, hRows ▸ hFirstKeys 2, hExport, hPaged _ _ _ (Or.inr rfl) hSearch hExport⟩
  · obtain ⟨about, hSearch⟩ := exists_search_atOnce hValues (some 3) none hAccepts (by decide)
    -- an export is a search with pages of another size
    obtain ⟨p, hPage, hRows⟩ := exists_searchPage_dearest hValues (.int Settings.exportPerPage) none
      9999999 (accepts_dearRequest (by decide) rfl (by decide)) (by decide)
    have hExportPage : (pricedProducts .null).exportPage Sample.shop (dearRequest (some 3) none) =
        .ok p := hPage
    have hExport := exportLines_of_exportPage hExportPage (hRows ▸ mapM_take_eq_ok hLines 3)
    have hFew : ∀ filtered, (pricedProducts .null).filtered Sample.shop [] (dearRequest (some 3) none) =
        .ok filtered → (filtered.matching Sample.shop).length ≤ Settings.exportPerPage := by
      intro filtered hFiltered
      obtain rfl : filtered = activeSelection :=
        Except.ok.inj (hFiltered.symm.trans hAccepts.filters)
      rw [length_activeSelection]
      decide
    exact ⟨_, about, hSearch, hFirstKeys 3, hExport, hWhole _ _ _ rfl rfl rfl hFew hSearch hExport⟩
  · have hUncapped : (pricedProducts .null).Accepts Sample.shop (dearRequest none none)
        activeSelection dearestFirst none 40 := accepts_dearRequest (by decide) rfl (by decide)
    obtain ⟨about, hSearch⟩ := exists_search_atOnce hValues none none hUncapped (by decide)
    have hChoices := options_dearRequest none
    obtain ⟨label, value, rows, choices, hLabel, hValue, hRows, -, hAre, hAnswer⟩ :=
      hOptions _ _ _ _ _ hSearch hChoices
    obtain rfl : ⟨"name", .text⟩ = label := Option.some.inj (Eq.trans (by decide) hLabel)
    obtain rfl : ⟨"id", .integer⟩ = value := Option.some.inj (Eq.trans (by decide) hValue)
    exact ⟨_, about, rows, choices, hSearch, hFirstKeys 5,
      hChoices.trans (congrArg Except.ok hAnswer), (rows_of_answer_eq hAnswer).symm, hRows, hAre⟩

end Resource

end Winnow
