import Winnow.Proofs.Filter.Avoidance
import Winnow.Proofs.Query.Paginator
import Winnow.Proofs.Store.Faultless
import Winnow.Service.Export
import Winnow.Service.Options
import Winnow.Sample.Cells

/-!
# Winnow.Proofs.Service.Hidden — hidden columns do not show

A model may hide columns, and its records leave them out. So two databases that differ in hidden
columns only cannot be told apart by searches and exports, which show records, as long as nothing
that selects or sorts rows names a hidden column (`Resource.hidden_columns_do_not_show`):

* what is gathered depends on the schema alone, and the rows that are read agree but for the hidden
  columns (`Resource.selection_eq`, `Selection.Avoids.agree_ordered`);
* rows that agree have the same record (`Database.recordOf?_eq`), so a page of them is the same, with
  its account;
* the cells of an export are found by paths in records. No path leads from there back to a row
  (`Value.isRowless`), so nothing else of the database is read (`Database.follow_eq`).

Options show no records but the cells of two columns, whether the model hides them or not. They tell
databases apart if one of the two is hidden (`Resource.hidden_label_shows`), and only then.

A relation that a hidden column carries is not named by that column. It counts as naming it all the
same, since its rows are found by what the column holds.
-/

namespace Winnow

/-! ## Values that lead to no row -/

namespace Value

mutual

/-- Does no path lead from the value to a row? Paths go into mappings only; an object may hold
anything. -/
def isRowless : Value → Bool
  | row .. => false
  | object _ => false
  | mapping entries => areRowless entries
  | _ => true

/-- Does no path lead from the entries to a row? -/
def areRowless : List (Value × Value) → Bool
  | [] => true
  | (_, v) :: entries => isRowless v && areRowless entries

end

theorem areRowless_iff {entries : List (Value × Value)} :
    areRowless entries = true ↔ ∀ e ∈ entries, e.2.isRowless = true := by
  induction entries with
  | nil => simp [areRowless]
  | cons e entries ih => simp [areRowless, ih]

/-- The attributes of a value that is neither a row nor an object lead to no row. -/
theorem isRowless_of_mem_attributes {v : Value} (hv : v.isRowless = true) :
    ∀ a ∈ v.attributes, a.2.isRowless = true := by
  cases v with
  | row | object => cases hv
  | member m => simp [attributes, memberAttributes, isRowless]
  | operator op => simp [attributes, memberAttributes, isRowless]
  | uuid u =>
    cases hVersion : u.version? <;> simp [attributes, uuidAttributes, hVersion, isRowless]
  | _ => simp [attributes, intAttributes, dayAttributes, timeAttributes, isRowless]

/-- What is found under a name leads to no row, either. -/
theorem isRowless_of_attribute? {v w : Value} {name : String} (hv : v.isRowless = true)
    (h : v.attribute? name = some w) : w.isRowless = true := by
  have hLookup (h : v.attributes.lookup name = some w) : w.isRowless = true := by
    obtain ⟨before, after, hSplit, -⟩ := List.lookup_eq_some_iff.mp h
    exact isRowless_of_mem_attributes hv (name, w) (hSplit ▸ List.mem_append_cons_self)
  cases v with
  | mapping entries =>
    rw [isRowless, areRowless_iff] at hv
    obtain ⟨e, hFind, rfl⟩ := Option.map_eq_some_iff.mp h
    exact hv e (List.mem_of_find?_eq_some hFind)
  | _ => exact hLookup h

mutual

theorem isRowless_ofJson : ∀ j : Json, (ofJson j).isRowless = true
  | .object members => areRowless_ofJson members
  | .null => rfl
  | .bool _ => rfl
  | .int _ => rfl
  | .double _ => rfl
  | .text _ => rfl
  | .array _ => rfl

theorem areRowless_ofJson : ∀ members : List (String × Json),
    areRowless (ofJsonMembers members) = true
  | [] => rfl
  | (_, j) :: members => by
    rw [ofJsonMembers, areRowless, isRowless_ofJson j, areRowless_ofJson members, Bool.and_self]

end

mutual

/-- The plain form of a value leads to no row, either. -/
theorem isRowless_of_plain? : ∀ v : Value, v.isRowless = true → ∀ {w : Value},
    v.plain? = some w → w.isRowless = true
  | .mapping entries, hv, w, h => by
    rw [plain?] at h
    obtain ⟨plain, hPlain, rfl⟩ := Option.map_eq_some_iff.mp h
    exact areRowless_of_plainEntries? entries hv hPlain
  | .list _, _, w, h => by
    obtain ⟨_, -, rfl⟩ := Option.map_eq_some_iff.mp h
    rfl
  | .tuple _, _, w, h => by
    obtain ⟨_, -, rfl⟩ := Option.map_eq_some_iff.mp h
    rfl
  | .decimal _, _, w, h => by
    obtain ⟨_, -, rfl⟩ := Option.map_eq_some_iff.mp h
    rfl
  | .date _, _, _, rfl => rfl
  | .dateTime _, _, _, rfl => rfl
  | .uuid _, _, _, rfl => rfl
  | .member _, _, _, rfl => rfl
  | .operator _, _, _, rfl => rfl
  | .null, _, _, rfl => rfl
  | .bool _, _, _, rfl => rfl
  | .int _, _, _, rfl => rfl
  | .double _, _, _, rfl => rfl
  | .text _, _, _, rfl => rfl
  | .set _, _, _, rfl => rfl

theorem areRowless_of_plainEntries? : ∀ entries : List (Value × Value), areRowless entries = true →
    ∀ {plain : List (Value × Value)}, plainEntries? entries = some plain → areRowless plain = true
  | [], _, plain, h => by
    cases h
    rfl
  | (k, v) :: entries, hEntries, plain, h => by
    rw [areRowless, Bool.and_eq_true] at hEntries
    rw [plainEntries?] at h
    obtain ⟨w, hHead, h⟩ := Option.bind_eq_some_iff.mp h
    obtain ⟨rest, hTail, rfl⟩ := Option.map_eq_some_iff.mp h
    rw [areRowless, isRowless_of_plain? v hEntries.1 hHead,
      areRowless_of_plainEntries? entries hEntries.2 hTail, Bool.and_self]

end

end Value

/-- Does the cell hold no row? None that the store keeps does. -/
def Cell.isRowless : Cell → Bool
  | .value v => v.isRowless
  | _ => true

theorem Cell.isRowless_read {c : Cell} (h : c.isRowless = true) : c.read.isRowless = true := by
  cases c with
  | null => rfl
  | document j => exact Value.isRowless_ofJson j
  | value v =>
    cases v with
    | row | object => cases h
    | mapping entries => exact h
    | _ => rfl

theorem Row.isRowless_cell {row : Row} (h : ∀ c ∈ row.cells, c.2.isRowless = true) (column : String) :
    (row.cell column).isRowless = true := by
  unfold cell
  split
  · rfl
  · cases hFind : row.cells.find? (·.1 == column) with
    | none => rfl
    | some c => exact h c (List.mem_of_find?_eq_some hFind)

namespace Database

variable {db db' : Database} {m : Model}

/-- **Where no row is met**, a path leads to the same in every database. -/
theorem follow_eq (db db' : Database) {v : Value} (hv : v.isRowless = true) (names : List String) :
    db.follow v names = db'.follow v names := by
  induction names generalizing v with
  | nil => rfl
  | cons name names ih =>
    have hLook (d : Database) : d.look? v name = v.attribute? name := by
      cases v with
      | row => cases hv
      | _ => rfl
    rw [follow, follow, hLook, hLook]
    cases hFound : v.attribute? name with
    | none => rfl
    | some w =>
      cases w with
      | null => rfl
      | _ => exact ih (Value.isRowless_of_attribute? hv hFound)

/-- The record of a row whose cells hold no rows leads to none. -/
theorem isRowless_of_recordOf? {r : Row} {v : Value} (hCells : ∀ column, (r.cell column).isRowless = true)
    (h : recordOf? m r = some v) : v.isRowless = true := by
  obtain ⟨entries, hPlain, rfl⟩ := Option.map_eq_some_iff.mp h
  refine Value.areRowless_of_plainEntries? _ ?_ hPlain
  rw [Value.areRowless_iff]
  intro e hMem
  obtain ⟨c, -, rfl⟩ := List.mem_map.mp hMem
  exact Cell.isRowless_read (hCells c.name)

theorem isRowless_of_serialize {serializer : String} {r : Row} {v : Value}
    (hRecord : m.serializer? serializer = some .record)
    (hCells : ∀ column, (r.cell column).isRowless = true) (h : db.serialize m serializer r = .ok v) :
    v.isRowless = true := by
  simp only [serialize, hRecord] at h
  split at h
  · rename_i w hPlain
    cases h
    exact isRowless_of_recordOf? hCells hPlain
  · cases h

/-- **Records leave hidden columns out**: they are the same for rows that agree but for these. -/
theorem recordOf?_eq {names : List String} {a b : Row} (hNames : ∀ name ∈ names, name ∈ m.hidden)
    (hRow : Row.AgreeBut names a b) : recordOf? m a = recordOf? m b := by
  have hEntries : ((m.columns.filter fun c => !m.hidden.contains c.name).map fun c =>
        (Value.text c.name, (a.cell c.name).read)) =
      (m.columns.filter fun c => !m.hidden.contains c.name).map fun c =>
        (Value.text c.name, (b.cell c.name).read) := by
    refine List.map_congr_left fun c hMem => ?_
    have hShown : c.name ∉ m.hidden := by simpa using (List.mem_filter.mp hMem).2
    rw [hRow c.name fun hSecret => hShown (hNames c.name hSecret)]
  rw [recordOf?, recordOf?, hEntries]

end Database

namespace Selection

variable {db : Database} {s : Selection} {rows : List Row}

/-- Rows that are read are rows of the table. -/
theorem mem_rows_of_mem_window {size offset : Int} {row : Row}
    (h : row ∈ window (s.ordered db) size offset) : row ∈ db.rows s.model := by
  have hOrdered : row ∈ s.ordered db := by
    unfold window at h
    dsimp only at h
    split at h
    · exact List.mem_of_mem_drop h
    · exact List.mem_of_mem_drop (List.mem_of_mem_take h)
  exact mem_rows_of_mem_ordered hOrdered

theorem mem_rows_of_all (h : s.all db = .ok rows) : ∀ row ∈ rows, row ∈ db.rows s.model := by
  intro row hRow
  unfold all at h
  split at h
  · obtain ⟨⟨⟩, -, h⟩ := bind_eq_ok_iff.mp h
    cases h
    exact mem_rows_of_mem_ordered hRow
  · obtain ⟨⟨⟩, -, h⟩ := bind_eq_ok_iff.mp h
    cases h
    exact mem_rows_of_mem_window hRow

theorem mem_rows_of_page {perPage page : Int} (h : s.page db perPage page = .ok rows) :
    ∀ row ∈ rows, row ∈ db.rows s.model := by
  intro row hRow
  unfold Selection.page at h
  dsimp only at h
  split at h
  · cases h
    cases hRow
  · obtain ⟨⟨⟩, -, h⟩ := bind_eq_ok_iff.mp h
    cases h
    exact mem_rows_of_mem_window hRow

end Selection

/-! ## The actions of a resource -/

namespace Resource

variable {db db' : Database} {secret : Model → List String} {r : Resource} {q : SearchRequest}
  {s : Selection}

/-- Does nothing that decides which rows are given, and in which order, name a secret column?
Neither the paths of the filter map nor the fields of the search term, neither the sort text nor the
scopes of the resource. -/
structure Avoids (r : Resource) (schema : Schema) (secret : Model → List String)
    (q : SearchRequest) : Prop where
  model : r.model ∈ schema
  filters : r.filterOptions.Avoids schema secret r.model (.mapping q.filters)
  sort : ∀ clause ∈ SortClause.ofValue (.text q.sort), clause.field ∉ secret r.model
  searchScope : ∀ c ∈ Step.callsOfAll Database.dialect r.searchScope, c.Avoids schema secret r.model
  exportScope : ∀ c ∈ Step.callsOfAll Database.dialect r.exportScope, c.Avoids schema secret r.model
  optionsScope :
    ∀ c ∈ Step.callsOfAll Database.dialect r.optionsScope, c.Avoids schema secret r.model

theorem avoids_of_mem_capCalls {schema : Schema} {m : Model} :
    ∀ c ∈ capCalls q, c.Avoids schema secret m := by
  intro c h
  cases hLimit : q.limit? with
  | none => simp [capCalls, hLimit] at h
  | some n =>
    simp only [capCalls, hLimit, Value.capCalls] at h
    split at h
    · rw [List.mem_singleton.mp h]
      trivial
    · cases h

section Gathering

variable {schema : Schema} {scope : List Step} (hAvoids : r.Avoids schema secret q)
  (hScope : ∀ c ∈ Step.callsOfAll Database.dialect scope, c.Avoids schema secret r.model)

include hAvoids hScope

theorem Avoids.filtered (h : r.filtered db scope q = .ok s) (hSchema : db.schema = schema) :
    s.model = r.model ∧ s.Avoids schema secret := by
  subst hSchema
  obtain ⟨start, hStart, hFilters⟩ := bind_eq_ok_iff.mp h
  have hModel := Selection.model_of_callAll? hStart
  have hOwn := Selection.avoids_of_callAll? (Selection.avoids_ofModel hAvoids.model) hScope hStart
  refine ⟨(Selection.model_of_callAll? hFilters).trans hModel, ?_⟩
  refine Selection.avoids_of_callAll? hOwn ?_ hFilters
  rw [hModel]
  exact Filter.Options.avoids_of_mem_calls hAvoids.filters

/-- The selection of an action avoids secret columns if the request does. -/
theorem Avoids.selection (h : r.selection db scope q = .ok s) (hSchema : db.schema = schema) :
    s.model = r.model ∧ s.Avoids schema secret := by
  obtain ⟨t, hFiltered, h⟩ := bind_eq_ok_iff.mp h
  obtain ⟨u, hSorted, hCapped⟩ := bind_eq_ok_iff.mp h
  obtain ⟨hModel, hFilters⟩ := hAvoids.filtered hScope hFiltered hSchema
  rw [hSchema] at hSorted hCapped
  have hSort := Selection.avoids_of_callAll? hFilters ?_ hSorted
  · refine ⟨?_, Selection.avoids_of_callAll? hSort avoids_of_mem_capCalls hCapped⟩
    rw [Selection.model_of_callAll? hCapped, Selection.model_of_callAll? hSorted, hModel]
  · intro c hMem
    obtain ⟨clause, hClause, rfl⟩ := List.mem_map.mp hMem
    rw [hModel]
    exact hAvoids.sort clause hClause

omit hScope in
/-- The selection of options avoids secret columns if the label is none, either. -/
theorem Avoids.optionSelection {label : Column} (hLabel : label.name ∉ secret r.model)
    (h : r.optionSelection db label q = .ok s) (hSchema : db.schema = schema) :
    s.model = r.model ∧ s.Avoids schema secret := by
  obtain ⟨t, hFiltered, h⟩ := bind_eq_ok_iff.mp h
  obtain ⟨u, hSorted, hCapped⟩ := bind_eq_ok_iff.mp h
  obtain ⟨hModel, hFilters⟩ := hAvoids.filtered hAvoids.optionsScope hFiltered hSchema
  rw [hSchema] at hSorted hCapped
  have hOrder : (Call.orderBy label.name "ASC").Avoids schema secret t.model := by
    rw [hModel]
    exact hLabel
  have hSort := Selection.avoids_of_call hFilters hOrder hSorted
  refine ⟨?_, Selection.avoids_of_callAll? hSort avoids_of_mem_capCalls hCapped⟩
  rw [Selection.model_of_callAll? hCapped, Selection.model_of_call hSorted, hModel]

end Gathering

theorem filtered_eq (hSchema : db'.schema = db.schema) (scope : List Step) :
    r.filtered db scope q = r.filtered db' scope q := by
  rw [filtered, filtered, inScope, inScope, hSchema]

/-- What is gathered depends on the schema alone. -/
theorem selection_eq (hSchema : db'.schema = db.schema) (scope : List Step) :
    r.selection db scope q = r.selection db' scope q := by
  rw [selection, selection, filtered_eq hSchema, hSchema]

/-- Two binds are the same if what follows is, wherever the first part succeeds. -/
theorem bind_eq_of_forall_ok {ε α β : Type} {x : Except ε α} {f g : α → Except ε β}
    (h : ∀ a, x = .ok a → f a = g a) : x >>= f = x >>= g := by
  cases x with
  | error e => rfl
  | ok a => exact h a rfl

theorem rowChoice_eq {names : List String} {label value : Column} {a b : Row}
    (hLabel : label.name ∉ names) (hValue : value.name ∉ names) (hRow : Row.AgreeBut names a b) :
    rowChoice label value a = rowChoice label value b := by
  rw [rowChoice, rowChoice, hRow label.name hLabel, hRow value.name hValue]

/-- The rows of an export are records that lead to no row. -/
theorem isRowless_of_exportPage {p : Paginator} (hAvoids : r.Avoids db.schema secret q)
    (hRecord : r.model.serializer? r.exportSerializer = some .record)
    (hCells : ∀ row ∈ db.rows r.model, ∀ column, (row.cell column).isRowless = true)
    (h : r.exportPage db q = .ok p) : ∀ v ∈ p.rows, v.isRowless = true := by
  obtain ⟨s, hSelection, hPage⟩ := bind_eq_ok_iff.mp h
  obtain ⟨hModel, -⟩ := hAvoids.selection hAvoids.exportScope hSelection rfl
  obtain ⟨rows, hRead, hRows⟩ := Paginator.exists_rows_of_result hPage
  have hMem : ∀ row ∈ rows, row ∈ db.rows s.model := by
    rcases hRead with hAll | ⟨perPage, page, hRead⟩
    · exact Selection.mem_rows_of_all hAll
    · exact Selection.mem_rows_of_page hRead
  intro v hv
  obtain ⟨i, hi, rfl⟩ := List.mem_iff_getElem.mp hv
  have hForall := mapM_eq_ok_iff.mp hRows
  have hRow := hForall.get (hForall.length_eq ▸ hi) hi
  refine Database.isRowless_of_serialize (hModel ▸ hRecord) (hCells _ ?_) hRow
  exact hModel ▸ hMem _ (List.getElem_mem _)

section Answers

variable (hAgree : db.AgreeBut secret db') (hAvoids : r.Avoids db.schema secret q)
  (hHidden : ∀ name ∈ secret r.model, name ∈ r.model.hidden)

include hAgree hHidden

/-- **A page of records** is the same, with its account. -/
theorem paginate_eq_of_agree {perPage : Value} {serializer : String} (hModel : s.model = r.model)
    (hSelection : s.Avoids db.schema secret)
    (hRecord : r.model.serializer? serializer = some .record) :
    paginate db s perPage serializer q = paginate db' s perPage serializer q := by
  have hSame : ∀ a b, Row.AgreeBut (secret s.model) a b →
      db.serialize s.model serializer a = db'.serialize s.model serializer b := by
    intro a b hRow
    rw [hModel] at hRow ⊢
    simp only [Database.serialize, hRecord, Database.recordOf?_eq hHidden hRow]
  have hCount : (s.source db).count = (s.source db').count :=
    congrArg (Except.map Int.ofNat) (hSelection.count_eq hAgree)
  exact congrArg Paginator.Built.result (Paginator.build_congr hCount
    (hSelection.all_bind_eq hAgree hSame) (hSelection.page_bind_eq hAgree hSame))

include hAvoids

/-- **A search** answers the same. -/
theorem search_eq_of_agree (hRecord : r.model.serializer? r.serializer = some .record) :
    r.search db q = r.search db' q := by
  have hPage : r.searchPage db q = r.searchPage db' q := by
    rw [searchPage, searchPage, ← selection_eq hAgree.schema]
    refine bind_eq_of_forall_ok fun s hSelection => ?_
    obtain ⟨hModel, hOwn⟩ := hAvoids.selection hAvoids.searchScope hSelection rfl
    exact paginate_eq_of_agree hAgree hHidden hModel hOwn hRecord
  rw [search, search, hPage]

theorem exportPage_eq_of_agree (hRecord : r.model.serializer? r.exportSerializer = some .record) :
    r.exportPage db q = r.exportPage db' q := by
  rw [exportPage, exportPage, ← selection_eq hAgree.schema]
  refine bind_eq_of_forall_ok fun s hSelection => ?_
  obtain ⟨hModel, hOwn⟩ := hAvoids.selection hAvoids.exportScope hSelection rfl
  exact paginate_eq_of_agree hAgree hHidden hModel hOwn hRecord

/-- **An export** writes the same. -/
theorem exportLines_eq_of_agree (hRecord : r.model.serializer? r.exportSerializer = some .record)
    (hCells : ∀ row ∈ db.rows r.model, ∀ column, (row.cell column).isRowless = true) :
    r.exportLines db q = r.exportLines db' q := by
  rw [exportLines, exportLines, ← exportPage_eq_of_agree hAgree hAvoids hHidden hRecord]
  refine bind_eq_of_forall_ok fun p hPage => ?_
  have hRowless := isRowless_of_exportPage hAvoids hRecord hCells hPage
  have hLines (paths : List Value) :
      p.rows.mapM (exportLine db paths) = p.rows.mapM (exportLine db' paths) := by
    refine mapM_eq_of_forall₂ (List.forall₂_same.mpr fun v hv => ?_) fun _ _ hSame => hSame
    have hCell : exportCell db v = exportCell db' v := by
      funext path
      simp only [exportCell, Database.nested, Database.follow_eq db db' (hRowless v hv)]
    rw [exportLine, exportLine, hCell]
  simp only [hLines]

omit hHidden in
/-- **Options** are the same, where neither label nor value is secret. -/
theorem options_eq_of_agree (label? value? : Option String)
    (hLabel : ∀ c, requireColumn r.model (label?.getD "") = .ok c → c.name ∉ secret r.model)
    (hValue : ∀ c, requireColumn r.model (orDefault value? Settings.optionValue) = .ok c →
      c.name ∉ secret r.model) :
    r.options db label? value? q = r.options db' label? value? q := by
  unfold options
  dsimp only
  split
  · rfl
  refine bind_eq_of_forall_ok fun label hLabelColumn => ?_
  refine bind_eq_of_forall_ok fun value hValueColumn => ?_
  have hSelection : r.optionSelection db label q = r.optionSelection db' label q := by
    rw [optionSelection, optionSelection, filtered_eq hAgree.schema, hAgree.schema]
  rw [← hSelection]
  refine bind_eq_of_forall_ok fun s hs => ?_
  obtain ⟨hModel, hOwn⟩ := hAvoids.optionSelection (hLabel label hLabelColumn) hs rfl
  have hChoices : s.all db >>= List.mapM (rowChoice label value) =
      s.all db' >>= List.mapM (rowChoice label value) := by
    refine hOwn.all_bind_eq hAgree fun a b hRow => ?_
    rw [hModel] at hRow
    exact rowChoice_eq (hLabel label hLabelColumn) (hValue value hValueColumn) hRow
  exact (bind_assoc _ _ _).symm.trans ((congrArg (· >>= _) hChoices).trans (bind_assoc _ _ _))

end Answers

/-- **Hidden columns do not show.** Let two databases differ in nothing but columns that records of
the model leave out, and let nothing that decides which rows are given, and in which order, name one
of these. Then a search and an export, which show records, answer the same in both, whatever the
columns of the export, the pages and the cap are. So do options, as long as neither their label nor
their value is one of the columns in which the databases differ. -/
theorem hidden_columns_do_not_show (db db' : Database) (r : Resource) (q : SearchRequest)
    (secret : Model → List String) (hAgree : db.AgreeBut secret db')
    (hAvoids : r.Avoids db.schema secret q)
    (hHidden : ∀ name ∈ secret r.model, name ∈ r.model.hidden)
    (hSearch : r.model.serializer? r.serializer = some .record)
    (hExport : r.model.serializer? r.exportSerializer = some .record)
    (hCells : ∀ row ∈ db.rows r.model, ∀ column, (row.cell column).isRowless = true) :
    r.search db q = r.search db' q ∧ r.exportLines db q = r.exportLines db' q ∧
      ∀ label? value? : Option String,
        (∀ c, requireColumn r.model (label?.getD "") = .ok c → c.name ∉ secret r.model) →
        (∀ c, requireColumn r.model (orDefault value? Settings.optionValue) = .ok c →
          c.name ∉ secret r.model) →
        r.options db label? value? q = r.options db' label? value? q :=
  ⟨search_eq_of_agree hAgree hAvoids hHidden hSearch,
    exportLines_eq_of_agree hAgree hAvoids hHidden hExport hCells,
    options_eq_of_agree hAgree hAvoids⟩

/-! ## A sample -/

/-- A shop with one ticket, which keeps this secret. -/
def oneTicket (secret : String) : Database :=
  ⟨Sample.schema, [("tickets", [⟨1, [("title", Sample.text "Broken screen"),
    ("state", Sample.state "OPEN"), ("urgent", Sample.flag true), ("secret", Sample.text secret),
    ("owner_id", Sample.int 1)]⟩])]⟩

/-- The tickets, exported with their titles and with what they hide. -/
def ticketDesk : Resource :=
  { Resource.ofModel Sample.ticket with
    termFields := .tuple [.text "title"]
    csvColumns := .mapping [(.text "title", .text "Title"), (.text "secret", .text "Secret")] }

/-- A request for all urgent tickets, ordered by title. -/
def urgentTickets : SearchRequest :=
  { SearchRequest.empty with
    filters := [(.text "urgent", .text "true")], sort := "title", skipPagination := true }

/-- Shops with other secrets agree but for what tickets hide. -/
theorem agreeBut_oneTicket (secret secret' : String) :
    (oneTicket secret).AgreeBut Model.hidden (oneTicket secret') := by
  refine ⟨rfl, ?_⟩
  intro m hm
  simp only [oneTicket, Sample.schema, List.mem_cons, List.not_mem_nil, or_false] at hm
  rcases hm with rfl | rfl | rfl | rfl | rfl | rfl
  case inr.inr.inr.inr.inr =>
    refine .cons ?_ .nil
    intro column hColumn
    have hSecret : ("secret" == column) = false := by
      rw [beq_eq_false_iff_ne]
      rintro rfl
      exact hColumn (by decide)
    simp only [Row.cell, List.find?_cons, hSecret]
  all_goals exact .nil

theorem avoids_urgentTickets : ticketDesk.Avoids Sample.schema Model.hidden urgentTickets where
  model := by decide
  filters := by
    refine ⟨?_, ?_⟩
    · intro entries hEntries e hMem _ path hRead
      obtain rfl := Except.ok.inj hEntries
      obtain rfl := List.mem_singleton.mp hMem
      have hUrgent : FieldPath.read "external_id" (.text "urgent") = .ok ⟨[], "urgent"⟩ := rfl
      obtain rfl := Except.ok.inj (hUrgent.symm.trans hRead)
      show "urgent" ∉ Sample.ticket.hidden
      decide
    · intro fields hFields f hMem
      obtain rfl := Option.some.inj hFields
      obtain rfl := List.mem_singleton.mp hMem
      decide
  sort := by decide
  searchScope := by
    intro c hMem
    cases hMem
  exportScope := by
    intro c hMem
    cases hMem
  optionsScope := by
    intro c hMem
    cases hMem

/-- The record of the ticket, without what tickets hide. -/
def ticketRecord : Value :=
  .mapping [(.text "id", .int 1), (.text "title", .text "Broken screen"),
    (.text "state", .text "open"), (.text "urgent", .bool true), (.text "score", .null),
    (.text "due", .null), (.text "seen_at", .null), (.text "owner_id", .int 1)]

/-- The urgent tickets in the order of a column. -/
def urgentBy (label : String) : Selection :=
  ⟨Sample.ticket, Database.dialect, [.flag ⟨"urgent", .boolean⟩ false true], [⟨label, false⟩], none⟩

/-- The ticket is the one urgent ticket. -/
theorem all_urgentBy (secret label : String) :
    (urgentBy label).all (oneTicket secret) = .ok ((oneTicket secret).rows Sample.ticket) := by
  have hCheck : (urgentBy label).check (oneTicket secret) .rows = .ok () :=
    Selection.check_of_isFaultless rfl (List.forall_mem_singleton.mpr rfl)
  have hOrdered : (urgentBy label).ordered (oneTicket secret) =
      (oneTicket secret).rows Sample.ticket := List.mergeSort_singleton _
  exact bind_eq_ok_iff.mpr ⟨(), hCheck, congrArg Except.ok hOrdered⟩

/-- The export of the ticket: where the hidden column is asked for, there is nothing. -/
theorem exportLines_oneTicket (secret : String) :
    ticketDesk.exportLines (oneTicket secret) urgentTickets =
      .ok [Csv.line [.text "Title", .text "Secret"], Csv.line [.text "Broken screen", .null]] := by
  have hRows : Paginator.serializeAll ((urgentBy "title").source (oneTicket secret)) "to_dict"
      ((urgentBy "title").all (oneTicket secret)) = .ok [ticketRecord] :=
    bind_eq_ok_iff.mpr ⟨_, all_urgentBy secret "title", rfl⟩
  have hPage : ticketDesk.exportPage (oneTicket secret) urgentTickets = .ok ⟨[ticketRecord], none⟩ :=
    bind_eq_ok_iff.mpr ⟨urgentBy "title", rfl,
      (Paginator.result_full rfl).trans (congrArg (Except.map _) hRows)⟩
  have hTitle : exportCell (oneTicket secret) ticketRecord (.text "title") =
      .ok (.text "Broken screen") := rfl
  have hSecret : exportCell (oneTicket secret) ticketRecord (.text "secret") = .ok .null := by
    have hPath : Text.split '.' "secret" = ["secret"] := by decide
    simp [exportCell, Value.asText?, Database.nested, hPath, Database.follow, Database.look?,
      ticketRecord, Value.attribute?, Value.field?, Value.lookup?, Value.sameKey, exportValue]
  have hLine : exportLine (oneTicket secret) [.text "title", .text "secret"] ticketRecord =
      .ok (Csv.line [.text "Broken screen", .null]) :=
    bind_eq_ok_iff.mpr ⟨_, mapM_eq_ok_iff.mpr (.cons hTitle (.cons hSecret .nil)), rfl⟩
  refine bind_eq_ok_iff.mpr ⟨_, hPage, bind_eq_ok_iff.mpr ⟨_, rfl, ?_⟩⟩
  exact bind_eq_ok_iff.mpr ⟨_, mapM_eq_ok_iff.mpr (.cons hLine .nil), rfl⟩

/-- The one choice that is offered: the ticket by its label. -/
theorem options_oneTicket {secret label : String} {column : Column} {choice : Value}
    (hBlank : Text.isAllBlank label = false)
    (hColumn : requireColumn Sample.ticket label = .ok column)
    (hSelection : ticketDesk.optionSelection (oneTicket secret) column urgentTickets =
      .ok (urgentBy column.name))
    (hChoice : ((oneTicket secret).rows Sample.ticket).mapM (rowChoice column ⟨"id", .integer⟩) =
      .ok [choice]) :
    ticketDesk.options (oneTicket secret) (some label) none urgentTickets =
      .ok (answer [choice] []) := by
  have hLabel : ¬ Text.isAllBlank ((some label).getD "") = true := Bool.eq_false_iff.mp hBlank
  rw [options, if_neg hLabel]
  refine bind_eq_ok_iff.mpr ⟨column, hColumn, bind_eq_ok_iff.mpr ⟨⟨"id", .integer⟩, rfl, ?_⟩⟩
  refine bind_eq_ok_iff.mpr ⟨_, hSelection, bind_eq_ok_iff.mpr ⟨_, all_urgentBy secret _, ?_⟩⟩
  exact bind_eq_ok_iff.mpr ⟨_, hChoice, rfl⟩

/-- Two shops with other secrets. The search for urgent tickets, their export, which asks for what
the tickets hide, and their titles as options are the same in both. -/
theorem hidden_columns_do_not_show_oneTicket :
    ticketDesk.search (oneTicket "alpha") urgentTickets =
        ticketDesk.search (oneTicket "beta") urgentTickets ∧
      ticketDesk.exportLines (oneTicket "beta") urgentTickets =
        .ok [Csv.line [.text "Title", .text "Secret"], Csv.line [.text "Broken screen", .null]] ∧
      ticketDesk.options (oneTicket "beta") (some "title") none urgentTickets =
        .ok (answer [OptionEdit.choice (.text "Broken screen") (.int 1)] []) := by
  have hCells : ∀ row ∈ (oneTicket "alpha").rows Sample.ticket, ∀ column,
      (row.cell column).isRowless = true := by
    exact List.forall_mem_singleton.mpr (Row.isRowless_cell (by decide))
  obtain ⟨hSearch, hExport, hOptions⟩ := hidden_columns_do_not_show (oneTicket "alpha")
    (oneTicket "beta") ticketDesk urgentTickets Model.hidden (agreeBut_oneTicket "alpha" "beta")
    avoids_urgentTickets (fun _ h => h) rfl rfl hCells
  refine ⟨hSearch, hExport.symm.trans (exportLines_oneTicket "alpha"),
    (hOptions (some "title") none ?_ ?_).symm.trans (options_oneTicket rfl rfl rfl rfl)⟩
  · intro c hLabel
    obtain rfl : ⟨"title", .text⟩ = c := Except.ok.inj hLabel
    decide
  · intro c hValue
    obtain rfl : ⟨"id", .integer⟩ = c := Except.ok.inj hValue
    decide

/-- **A hidden column shows as a label**: options by the secret of tickets tell it. -/
theorem hidden_label_shows :
    (oneTicket "alpha").AgreeBut Model.hidden (oneTicket "beta") ∧
      ticketDesk.Avoids (oneTicket "alpha").schema Model.hidden urgentTickets ∧
      ticketDesk.options (oneTicket "alpha") (some "secret") none urgentTickets =
        .ok (answer [OptionEdit.choice (.text "alpha") (.int 1)] []) ∧
      ticketDesk.options (oneTicket "beta") (some "secret") none urgentTickets =
        .ok (answer [OptionEdit.choice (.text "beta") (.int 1)] []) :=
  ⟨agreeBut_oneTicket "alpha" "beta", avoids_urgentTickets,
    options_oneTicket rfl rfl rfl rfl, options_oneTicket rfl rfl rfl rfl⟩

end Resource

end Winnow
