import Winnow.Proofs.Filter.Entry
import Winnow.Proofs.Service.Records
import Winnow.Proofs.Text.Trim

/-!
# Winnow.Proofs.Service.Projection — what an export shows of rows

An export is a projection: it shows of every row what stands at the paths of its columns. What that
is, is said here without the functions that find it and write it down:

* what a value shows under a name is read off the entries of a mapping, the cells and the relations
  of a row, or the attributes of any other value (`Database.Shows`);
* names lead from a value to another, one after the other, and to null where one of them finds
  nothing (`Database.Leads`);
* a record has, for each column, the text of what the names in its path lead to
  (`Resource.IsProjection`);
* lines are those of a table if a reader finds its records in them, in each line one
  (`Csv.AreLinesOf`).

`Database.shows_iff`, `Database.leads_iff` and `Resource.showsAt_iff` say that the program finds that
and nothing else. So the lines of an export are read as the titles and the projections of the rows
(`Resource.exists_page_of_exportLines`).
-/

namespace Winnow

/-- Is `x` the first of the items that have a property? -/
def IsFirst {α : Type} (p : α → Prop) (xs : List α) (x : α) : Prop :=
  p x ∧ ∃ before after, xs = before ++ x :: after ∧ ∀ y ∈ before, ¬ p y

theorem isFirst_iff {α : Type} {p : α → Prop} {f : α → Bool} (hf : ∀ y, f y = true ↔ p y)
    {xs : List α} {x : α} : IsFirst p xs x ↔ xs.find? f = some x := by
  rw [IsFirst, List.find?_eq_some_iff_append, hf]
  simp only [Bool.not_eq_true', ← hf, Bool.not_eq_true]

/-! ## What a value shows -/

namespace Database

variable {db : Database} {m : Model} {r other : Row} {rel : Relation} {model name : String}
  {key : Int} {rows : List Row} {names : List String} {v w : Value}

/-- Is `r` the row of a model that has the key? -/
def IsRowOf (db : Database) (model : String) (key : Int) (m : Model) (r : Row) : Prop :=
  IsFirst (·.name = model) db.schema m ∧ IsFirst (·.key = key) (db.rows m) r

/-- Does a model have a relation that no column hides? -/
def HasRelation (m : Model) (rel : Relation) : Prop :=
  (∀ c ∈ m.columns, c.name ≠ rel.name) ∧ IsFirst (·.name = rel.name) m.relations rel

/-- The rows of the model of this name. Where there is no such model, there are no rows. -/
inductive RowsOf (db : Database) (name : String) : List Row → Prop
  | model {m : Model} (hModel : IsFirst (·.name = name) db.schema m) : RowsOf db name (db.rows m)
  | missing (hMissing : ∀ m ∈ db.schema, m.name ≠ name) : RowsOf db name []

/-- What a value shows under a name. A row shows its cells, then the rows that are related to it, then
what its model says of the table. -/
inductive Shows (db : Database) : Value → String → Value → Prop
  | entry {entries : List (Value × Value)} {key w : Value} {name : String}
      (hEntry : IsFirst (fun e => e.1.asText? = some name) entries (key, w)) :
      Shows db (.mapping entries) name w
  | cell {model : String} {key : Int} {m : Model} {r : Row} {name : String}
      (hRow : db.IsRowOf model key m r) (hColumn : ∃ c ∈ m.columns, c.name = name) :
      Shows db (.row model key) name (r.cell name).read
  | toMany {model : String} {key : Int} {m : Model} {r : Row} {rel : Relation} {rows : List Row}
      (hRow : db.IsRowOf model key m r) (hRelation : HasRelation m rel) (hMany : rel.toMany = true)
      (hRows : db.RowsOf rel.target rows) :
      Shows db (.row model key) rel.name (.list ((rows.filter fun other =>
        other.reference? rel.column = some r.key).map fun other => .row rel.target other.key))
  | toOne {model : String} {key : Int} {m : Model} {r other : Row} {rel : Relation}
      {rows : List Row} (hRow : db.IsRowOf model key m r) (hRelation : HasRelation m rel)
      (hOne : rel.toMany = false) (hRows : db.RowsOf rel.target rows)
      (hOther : IsFirst (fun other => r.reference? rel.column = some other.key) rows other) :
      Shows db (.row model key) rel.name (.row rel.target other.key)
  | toNone {model : String} {key : Int} {m : Model} {r : Row} {rel : Relation} {rows : List Row}
      (hRow : db.IsRowOf model key m r) (hRelation : HasRelation m rel) (hOne : rel.toMany = false)
      (hRows : db.RowsOf rel.target rows)
      (hNone : ∀ other ∈ rows, r.reference? rel.column ≠ some other.key) :
      Shows db (.row model key) rel.name .null
  | table {model : String} {key : Int} {m : Model} {r : Row} {name : String} {w : Value}
      (hRow : db.IsRowOf model key m r) (hColumns : ∀ c ∈ m.columns, c.name ≠ name)
      (hRelations : ∀ rel ∈ m.relations, rel.name ≠ name)
      (hTable : IsFirst (·.1 = name) (modelAttributes m) (name, w)) :
      Shows db (.row model key) name w
  | other {v w : Value} {name : String} (hAttribute : IsFirst (·.1 = name) v.attributes (name, w)) :
      Shows db v name w

/-- What names lead to, one after the other. Where a name shows nothing, or null, they lead to
null. -/
inductive Leads (db : Database) : Value → List String → Value → Prop
  | here {v : Value} : Leads db v [] v
  | on {v w x : Value} {name : String} {names : List String} (hShows : db.Shows v name w)
      (hSome : w ≠ .null) (hLeads : Leads db w names x) : Leads db v (name :: names) x
  | nowhere {v : Value} {name : String} {names : List String}
      (hNothing : ∀ w, db.Shows v name w → w = .null) : Leads db v (name :: names) .null

/-! ### It is what the program finds -/

theorem isFirst_field_iff {entries : List (Value × Value)} :
    (∃ key, IsFirst (fun e => e.1.asText? = some name) entries (key, w)) ↔
      Value.field? name entries = some w := by
  rw [Value.field?, Value.lookup?, Option.map_eq_some_iff]
  constructor
  · rintro ⟨key, hFirst⟩
    exact ⟨(key, w), (isFirst_iff fun e => Value.sameKey_text_iff).mp hFirst, rfl⟩
  · rintro ⟨⟨key, _⟩, hFind, rfl⟩
    exact ⟨key, (isFirst_iff fun e => Value.sameKey_text_iff).mpr hFind⟩

theorem isFirst_lookup_iff {attributes : List (String × Value)} :
    IsFirst (·.1 = name) attributes (name, w) ↔ attributes.lookup name = some w := by
  have hOther (a : String × Value) : (name != a.1) = true ↔ ¬ a.1 = name :=
    bne_iff_ne.trans ne_comm
  rw [List.lookup_eq_some_iff, IsFirst]
  simp only [true_and, hOther]

theorem isRowOf_iff :
    db.IsRowOf model key m r ↔
      db.schema.model? model = some m ∧ (db.rows m).find? (·.key == key) = some r :=
  and_congr (isFirst_iff fun _ => beq_iff_eq) (isFirst_iff fun _ => beq_iff_eq)

theorem column?_eq_none_iff : m.column? name = none ↔ ∀ c ∈ m.columns, c.name ≠ name := by
  simp [Model.column?, List.find?_eq_none]

theorem relation?_eq_none_iff : m.relation? name = none ↔ ∀ rel ∈ m.relations, rel.name ≠ name := by
  simp [Model.relation?, List.find?_eq_none]

theorem hasRelation_iff :
    HasRelation m rel ↔ m.column? rel.name = none ∧ m.relation? rel.name = some rel :=
  and_congr column?_eq_none_iff.symm (isFirst_iff fun _ => beq_iff_eq)

theorem IsRowOf.attributeOf?_eq (h : db.IsRowOf model key m r) (name : String) :
    db.attributeOf? model key name = db.attribute? m r name := by
  obtain ⟨hModel, hRow⟩ := isRowOf_iff.mp h
  rw [attributeOf?, hModel, Option.bind_some, hRow, Option.bind_some]

theorem exists_isRowOf_of_attributeOf? (h : db.attributeOf? model key name = some w) :
    ∃ m r, db.IsRowOf model key m r ∧ db.attribute? m r name = some w := by
  obtain ⟨m, hModel, h⟩ := Option.bind_eq_some_iff.mp h
  obtain ⟨r, hRow, h⟩ := Option.bind_eq_some_iff.mp h
  exact ⟨m, r, isRowOf_iff.mpr ⟨hModel, hRow⟩, h⟩

theorem exists_rowsOf (db : Database) (name : String) : ∃ rows, db.RowsOf name rows := by
  cases hModel : db.schema.model? name with
  | none => exact ⟨[], .missing (by simpa [Schema.model?, List.find?_eq_none] using hModel)⟩
  | some m => exact ⟨db.rows m, .model ((isFirst_iff fun _ => beq_iff_eq).mpr hModel)⟩

/-- The related rows are those of the other table that the key leads to. -/
theorem RowsOf.relatedValue_eq (h : db.RowsOf rel.target rows) (r : Row) :
    db.relatedValue rel r =
      if rel.toMany then
        .list ((rows.filter (related rel r)).map fun other => .row rel.target other.key)
      else ((rows.find? (related rel r)).map fun other => Value.row rel.target other.key).getD
        .null := by
  rw [relatedValue, ← List.head?_filter, ← List.head?_map]
  cases h with
  | model hModel =>
    have hFound := (isFirst_iff fun _ => beq_iff_eq).mp hModel
    simp only [Schema.model?, hFound, relatedRows, hModel.1]
  | missing hMissing =>
    have hNone : db.schema.model? rel.target = none := by
      simpa [Schema.model?, List.find?_eq_none] using hMissing
    rw [hNone]
    rfl

theorem related_toMany (hMany : rel.toMany = true) (r : Row) :
    related rel r = fun other => decide (other.reference? rel.column = some r.key) := by
  funext other
  rw [related, if_pos hMany, beq_eq_decide]

theorem related_toOne_iff (hOne : rel.toMany = false) :
    related rel r other = true ↔ r.reference? rel.column = some other.key := by
  rw [related, if_neg (Bool.eq_false_iff.mp hOne), beq_iff_eq]

theorem attribute?_of_column (h : ∃ c ∈ m.columns, c.name = name) :
    db.attribute? m r name = some (r.cell name).read := by
  cases hColumn : m.column? name with
  | none =>
    obtain ⟨c, hMem, hName⟩ := h
    exact absurd hName (column?_eq_none_iff.mp hColumn c hMem)
  | some c => simp only [attribute?, hColumn, Model.column?_name hColumn]

theorem attribute?_of_hasRelation (h : HasRelation m rel) :
    db.attribute? m r rel.name = some (db.relatedValue rel r) := by
  obtain ⟨hColumn, hRelation⟩ := hasRelation_iff.mp h
  simp only [attribute?, hColumn, hRelation]

theorem attribute?_of_neither (hColumns : ∀ c ∈ m.columns, c.name ≠ name)
    (hRelations : ∀ rel ∈ m.relations, rel.name ≠ name) :
    db.attribute? m r name = (modelAttributes m).lookup name := by
  simp only [attribute?, column?_eq_none_iff.mpr hColumns, relation?_eq_none_iff.mpr hRelations]

/-- What is shown is found. -/
theorem Shows.look?_eq (h : db.Shows v name w) : db.look? v name = some w := by
  cases h with
  | entry hEntry => exact isFirst_field_iff.mp ⟨_, hEntry⟩
  | cell hRow hColumn =>
    exact (hRow.attributeOf?_eq name).trans (attribute?_of_column hColumn)
  | toMany hRow hRelation hMany hRows =>
    rw [look?, hRow.attributeOf?_eq, attribute?_of_hasRelation hRelation, hRows.relatedValue_eq,
      if_pos hMany, related_toMany hMany]
  | toOne hRow hRelation hOne hRows hOther =>
    have hFind := (isFirst_iff fun _ => related_toOne_iff hOne).mp hOther
    rw [look?, hRow.attributeOf?_eq, attribute?_of_hasRelation hRelation, hRows.relatedValue_eq,
      if_neg (Bool.eq_false_iff.mp hOne), hFind]
    rfl
  | toNone hRow hRelation hOne hRows hNone =>
    have hFind : List.find? (related _ _) _ = none := List.find?_eq_none.mpr
      fun other hMem hRelated => hNone other hMem ((related_toOne_iff hOne).mp hRelated)
    rw [look?, hRow.attributeOf?_eq, attribute?_of_hasRelation hRelation, hRows.relatedValue_eq,
      if_neg (Bool.eq_false_iff.mp hOne), hFind]
    rfl
  | table hRow hColumns hRelations hTable =>
    rw [look?, hRow.attributeOf?_eq, attribute?_of_neither hColumns hRelations]
    exact isFirst_lookup_iff.mp hTable
  | other hAttribute =>
    have hLookup := isFirst_lookup_iff.mp hAttribute
    -- mappings and rows have no attributes
    cases v with
    | mapping | row => cases hLookup
    | _ => exact hLookup

/-- What a row shows under the name of a relation. -/
theorem IsRowOf.shows_relatedValue (h : db.IsRowOf model key m r) (hRelation : HasRelation m rel) :
    db.Shows (.row model key) rel.name (db.relatedValue rel r) := by
  obtain ⟨rows, hRows⟩ := exists_rowsOf db rel.target
  rw [hRows.relatedValue_eq]
  cases hMany : rel.toMany with
  | true =>
    rw [if_pos rfl, related_toMany hMany]
    exact .toMany h hRelation hMany hRows
  | false =>
    rw [if_neg Bool.false_ne_true]
    cases hFind : rows.find? (related rel r) with
    | none =>
      refine .toNone h hRelation hMany hRows fun other hMem hRelated => ?_
      exact List.find?_eq_none.mp hFind other hMem ((related_toOne_iff hMany).mpr hRelated)
    | some other =>
      exact .toOne h hRelation hMany hRows
        ((isFirst_iff fun _ => related_toOne_iff hMany).mpr hFind)

theorem IsRowOf.shows_of_attribute? (h : db.IsRowOf model key m r)
    (hAttribute : db.attribute? m r name = some w) : db.Shows (.row model key) name w := by
  cases hColumn : m.column? name with
  | some c =>
    have hSome : ∃ c ∈ m.columns, c.name = name :=
      ⟨c, List.mem_of_find?_eq_some hColumn, Model.column?_name hColumn⟩
    obtain rfl := Option.some.inj (hAttribute.symm.trans (attribute?_of_column hSome))
    exact .cell h hSome
  | none =>
    cases hFound : m.relation? name with
    | some rel =>
      obtain rfl := Model.relation?_name hFound
      have hRelation := hasRelation_iff.mpr ⟨hColumn, hFound⟩
      obtain rfl :=
        Option.some.inj (hAttribute.symm.trans (attribute?_of_hasRelation hRelation))
      exact h.shows_relatedValue hRelation
    | none =>
      have hColumns := column?_eq_none_iff.mp hColumn
      have hRelations := relation?_eq_none_iff.mp hFound
      rw [attribute?_of_neither hColumns hRelations] at hAttribute
      exact .table h hColumns hRelations (isFirst_lookup_iff.mpr hAttribute)

/-- **What a value shows** is what the program finds. -/
theorem shows_iff : db.Shows v name w ↔ db.look? v name = some w := by
  refine ⟨Shows.look?_eq, fun h => ?_⟩
  cases v with
  | row model key =>
    obtain ⟨m, r, hRow, hAttribute⟩ := exists_isRowOf_of_attributeOf? h
    exact hRow.shows_of_attribute? hAttribute
  | mapping entries =>
    obtain ⟨key, hEntry⟩ := isFirst_field_iff.mpr h
    exact .entry hEntry
  | _ => exact .other (isFirst_lookup_iff.mpr h)

theorem follow_cons_of_some (hLook : db.look? v name = some w) (hSome : w ≠ .null)
    (names : List String) : db.follow v (name :: names) = db.follow w names := by
  rw [follow, hLook]
  cases w with
  | null => exact absurd rfl hSome
  | _ => rfl

theorem follow_cons_of_nothing (hNothing : ∀ w, db.look? v name = some w → w = .null)
    (names : List String) : db.follow v (name :: names) = .null := by
  rw [follow]
  cases hLook : db.look? v name with
  | none => rfl
  | some w => rw [hNothing w hLook]

theorem leads_follow (db : Database) (v : Value) (names : List String) :
    db.Leads v names (db.follow v names) := by
  induction names generalizing v with
  | nil => exact .here
  | cons name names ih =>
    by_cases hNothing : ∀ w, db.look? v name = some w → w = .null
    · rw [follow_cons_of_nothing hNothing]
      exact .nowhere fun w hShows => hNothing w (shows_iff.mp hShows)
    · push Not at hNothing
      obtain ⟨w, hLook, hSome⟩ := hNothing
      rw [follow_cons_of_some hLook hSome]
      exact .on (shows_iff.mpr hLook) hSome (ih w)

/-- **What names lead to** is what the program finds. -/
theorem leads_iff : db.Leads v names w ↔ db.follow v names = w := by
  constructor
  · intro h
    induction h with
    | here => rfl
    | on hShows hSome _ ih => exact (follow_cons_of_some (shows_iff.mp hShows) hSome _).trans ih
    | nowhere hNothing =>
      exact follow_cons_of_nothing (fun w hLook => hNothing w (shows_iff.mpr hLook)) _
  · rintro rfl
    exact leads_follow db v names

end Database

/-! ## What stands in a table -/

namespace Csv

variable {v : Value} {s : String}

/-- What stands in a table for a value: for null an empty text, for what counts as text that text,
for any other value its text. -/
inductive Prints : Value → String → Prop
  | null : Prints .null ""
  | text {s : String} : Prints (.text s) s
  | operator {op : Operator} : Prints (.operator op) op.wireName
  | other {v : Value} (hSome : v ≠ .null) (hText : v.asText? = none) : Prints v v.display

theorem prints_iff : Prints v s ↔ cellText v = s := by
  constructor
  · intro h
    cases h with
    | null | text | operator => rfl
    | other hSome hText =>
      cases v with
      | null => exact absurd rfl hSome
      | text | operator => cases hText
      | _ => rfl
  · rintro rfl
    cases v with
    | null => exact .null
    | text => exact .text
    | operator => exact .operator
    | _ => exact .other (by nofun) rfl

/-- Are the lines those of a table: does a reader find one record in each of them, and in all of
them, one after the other, those records and no others? -/
def AreLinesOf (lines : List String) (table : List (List String)) : Prop :=
  List.Forall₂ (fun line record => readText .feeds line = [record]) lines table ∧
    readText .feeds (String.join lines) = table

/-- The lines that are written for records are those of their texts. -/
theorem areLinesOf_lines (table : List (List Value)) :
    AreLinesOf (table.map line) (table.map fun record => record.map cellText) := by
  have hRead (table : List (List Value)) : readText .feeds (String.join (table.map line)) =
      table.map fun record => record.map cellText :=
    readText_join_lines table fun _ _ v _ => Breaks.spares_feeds (cellText v).toList
  refine ⟨?_, hRead table⟩
  rw [List.forall₂_map_left_iff, List.forall₂_map_right_iff, List.forall₂_same]
  intro record _
  simpa using hRead [record]

end Csv

/-! ## Exports -/

namespace Resource

variable {db : Database} {r : Resource} {q : SearchRequest} {row path : Value} {s : String}

/-- What an export shows for a value: of a member of an enumeration its value, else what stands for
the value in a table. -/
inductive Exports : Value → String → Prop
  | member {m : EnumMember} : Exports (.member m) m.value
  | other {v : Value} {s : String} (hMember : ∀ m, v ≠ .member m) (hPrints : Csv.Prints v s) :
      Exports v s

/-- Is the text what an export shows of a row at a path? The names in a path stand between points. -/
def ShowsAt (db : Database) (row path : Value) (s : String) : Prop :=
  ∃ names v, names ≠ [] ∧ (∀ name ∈ names, '.' ∉ name.toList) ∧
    path.asText? = some (".".intercalate names) ∧ db.Leads row names v ∧ Exports v s

/-- Is a record the projection of a row on the columns: what the row shows at their paths? -/
def IsProjection (db : Database) (paths : List Value) (row : Value) (record : List String) : Prop :=
  List.Forall₂ (ShowsAt db row) paths record

/-- The paths and the titles of the columns of an export, as they are declared: a mapping from paths
to titles, or the paths alone. -/
inductive Declares : Value → List Value → List Value → Prop
  | titled {columns : List (Value × Value)} :
      Declares (.mapping columns) (columns.map Prod.fst) (columns.map Prod.snd)
  | untitled {v : Value} {paths : List Value} (hMapping : ∀ columns, v ≠ .mapping columns)
      (hPaths : v.iterated? = some paths) : Declares v paths []

/-- The record of the titles of an export, if there are any. -/
inductive Heads : List Value → List (List String) → Prop
  | untitled : Heads [] []
  | titled {titles : List Value} {record : List String} (hSome : titles ≠ [])
      (hPrints : List.Forall₂ Csv.Prints titles record) : Heads titles [record]

/-- Are the lines those of an export of the rows: the titles, if there are any, and then the
projection of each row, one after the other? -/
def IsExportOf (r : Resource) (db : Database) (rows : List Value) (lines : List String) : Prop :=
  ∃ paths titles head records, Declares r.csvColumns paths titles ∧ Heads titles head ∧
    List.Forall₂ (IsProjection db paths) rows records ∧ Csv.AreLinesOf lines (head ++ records)

/-! ### It is what the program writes -/

theorem exports_iff {v : Value} : Exports v s ↔ Csv.cellText (exportValue v) = s := by
  constructor
  · intro h
    cases h with
    | member => rfl
    | other hMember hPrints =>
      rw [← Csv.prints_iff.mp hPrints]
      cases v with
      | member m => exact absurd rfl (hMember m)
      | _ => rfl
  · rintro rfl
    cases v with
    | member m => exact .member
    | _ => exact .other nofun (Csv.prints_iff.mpr rfl)

/-- **What a row shows at a path** is the text of the cell that the program finds. -/
theorem showsAt_iff :
    ShowsAt db row path s ↔ ∃ cell, exportCell db row path = .ok cell ∧ Csv.cellText cell = s := by
  have hMark : ".".toList = ['.'] := rfl
  constructor
  · rintro ⟨names, v, hSome, hPoints, hPath, hLeads, hExports⟩
    refine ⟨exportValue v, ?_, exports_iff.mp hExports⟩
    rw [exportCell, hPath]
    simp only [Database.nested, Text.split_intercalate hMark hSome hPoints,
      Database.leads_iff.mp hLeads]
  · rintro ⟨cell, hCell, rfl⟩
    cases hPath : path.asText? with
    | none => simp [exportCell, hPath] at hCell
    | some text =>
      obtain ⟨hSome, hPoints, hJoined⟩ := (Text.split_eq_iff hMark).mp (Eq.refl (Text.split '.' text))
      simp only [exportCell, hPath, Except.ok.injEq] at hCell
      refine ⟨Text.split '.' text, db.nested row text, hSome, hPoints, ?_, ?_, ?_⟩
      · rw [hPath, hJoined]
      · exact Database.leads_follow db row _
      · exact exports_iff.mpr (congrArg Csv.cellText hCell)

/-- The texts of the cells of a row are its projection. -/
theorem isProjection_of_cells {paths cells : List Value}
    (h : paths.mapM (exportCell db row) = .ok cells) :
    IsProjection db paths row (cells.map Csv.cellText) := by
  rw [IsProjection, List.forall₂_map_right_iff]
  exact (mapM_eq_ok_iff.mp h).imp fun _ cell hCell => showsAt_iff.mpr ⟨cell, hCell, rfl⟩

theorem declares_of_ofValue {v : Value} {columns : CsvColumns}
    (h : CsvColumns.ofValue v = .ok columns) : Declares v columns.paths columns.titles := by
  unfold CsvColumns.ofValue at h
  split at h
  · obtain rfl := Except.ok.inj h
    exact .titled
  · rename_i hMapping
    split at h
    · rename_i paths hPaths
      obtain rfl := Except.ok.inj h
      exact .untitled hMapping hPaths
    · cases h

theorem heads_titleRecords (columns : CsvColumns) :
    Heads columns.titles ((titleRecords columns).map fun record => record.map Csv.cellText) := by
  unfold titleRecords
  split
  · rename_i hEmpty
    rw [List.isEmpty_iff.mp hEmpty]
    exact .untitled
  · rename_i hSome
    refine .titled (fun hEmpty => hSome (List.isEmpty_iff.mpr hEmpty)) ?_
    rw [List.forall₂_map_right_iff, List.forall₂_same]
    exact fun v _ => Csv.prints_iff.mpr rfl

/-- **The lines of an export** are those of the rows that it reads. -/
theorem exists_page_of_exportLines {lines : List String} (h : r.exportLines db q = .ok lines) :
    ∃ p, r.exportPage db q = .ok p ∧ r.IsExportOf db p.rows lines := by
  obtain ⟨p, columns, _, hPage, hColumns, ⟨records, rfl, hRecords⟩, rfl⟩ :=
    exportLines_eq_ok_iff.mp h
  refine ⟨p, hPage, columns.paths, columns.titles, _,
    records.map fun record => record.map Csv.cellText, declares_of_ofValue hColumns,
    heads_titleRecords columns, ?_, ?_⟩
  · rw [List.forall₂_map_right_iff]
    exact hRecords.imp fun _ _ => isProjection_of_cells
  · rw [← List.map_append]
    exact Csv.areLinesOf_lines (titleRecords columns ++ records)

end Resource

end Winnow
