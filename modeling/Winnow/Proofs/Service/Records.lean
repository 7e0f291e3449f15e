import Winnow.Proofs.Csv
import Winnow.Proofs.Query.Paginator
import Winnow.Proofs.Store.Faultless
import Winnow.Sample.Shop
import Winnow.Service.Export

/-!
# Winnow.Proofs.Service.Records — the records that an export is read as

An export writes a table: the titles, if there are any, and a record for each row, all with as many
fields as there are columns (`Resource.IsTable`, `Resource.exportLines_eq_ok_iff`). Here it is read
by a program that takes carriage returns for line breaks, as most do.

The program finds the records of the table and no others exactly if no record is broken
(`exported_records_iff`): outside quotation marks, a carriage return may stand at the end of a line
only, and even there it is lost. So a text in a cell can forge records (`carriageReturn_forges`).
-/

namespace Winnow

namespace Resource

/-- The record of titles, if there are titles. -/
def titleRecords (columns : CsvColumns) : List (List Value) :=
  if columns.titles.isEmpty then [] else [columns.titles]

/-- Is the table that of an export of the rows: the titles, if there are any, and then the cells of
each row, one after the other? -/
def IsTable (db : Database) (columns : CsvColumns) (rows : List Value)
    (table : List (List Value)) : Prop :=
  ∃ records, table = titleRecords columns ++ records ∧
    List.Forall₂ (fun row record => columns.paths.mapM (exportCell db row) = .ok record) rows records

variable {db : Database} {r : Resource} {q : SearchRequest} {columns : CsvColumns}
  {rows : List Value} {lines : List String} {table : List (List Value)}

theorem titleLines_eq (columns : CsvColumns) :
    titleLines columns = (titleRecords columns).map Csv.line := by
  unfold titleLines titleRecords
  split <;> rfl

/-- The lines of rows are the lines of their cells. -/
theorem mapM_exportLine_eq_ok_iff {paths : List Value} :
    rows.mapM (exportLine db paths) = .ok lines ↔
      ∃ records, List.Forall₂ (fun row record => paths.mapM (exportCell db row) = .ok record)
        rows records ∧ lines = records.map Csv.line := by
  induction rows generalizing lines with
  | nil => simp [eq_comm, pure, Except.pure]
  | cons row rows ih =>
    rw [mapM_eq_ok_iff, List.forall₂_cons_left_iff]
    constructor
    · rintro ⟨line, rest, hLine, hRest, rfl⟩
      obtain ⟨record, hRecord, hLine⟩ := bind_eq_ok_iff.mp hLine
      obtain ⟨records, hRecords, rfl⟩ := ih.mp (mapM_eq_ok_iff.mpr hRest)
      exact ⟨record :: records, .cons hRecord hRecords,
        congrArg (· :: _) (Except.ok.inj hLine).symm⟩
    · rintro ⟨_, hRecords, rfl⟩
      cases hRecords with
      | cons hRecord hRecords =>
        exact ⟨_, _, bind_eq_ok_iff.mpr ⟨_, hRecord, rfl⟩,
          mapM_eq_ok_iff.mp (ih.mpr ⟨_, hRecords, rfl⟩), rfl⟩

/-- **What an export writes**: the table of the page that it reads, line by line. -/
theorem exportLines_eq_ok_iff :
    r.exportLines db q = .ok lines ↔
      ∃ p columns table, r.exportPage db q = .ok p ∧ CsvColumns.ofValue r.csvColumns = .ok columns ∧
        IsTable db columns p.rows table ∧ lines = table.map Csv.line := by
  rw [exportLines, bind_eq_ok_iff]
  constructor
  · rintro ⟨p, hPage, h⟩
    obtain ⟨columns, hColumns, h⟩ := bind_eq_ok_iff.mp h
    obtain ⟨_, hLines, h⟩ := bind_eq_ok_iff.mp h
    obtain ⟨records, hRecords, rfl⟩ := mapM_exportLine_eq_ok_iff.mp hLines
    refine ⟨p, columns, _, hPage, hColumns, ⟨records, rfl, hRecords⟩, ?_⟩
    rw [List.map_append, ← titleLines_eq]
    exact (Except.ok.inj h).symm
  · rintro ⟨p, columns, _, hPage, hColumns, ⟨records, rfl, hRecords⟩, rfl⟩
    refine ⟨p, hPage, bind_eq_ok_iff.mpr ⟨columns, hColumns, bind_eq_ok_iff.mpr
      ⟨_, mapM_exportLine_eq_ok_iff.mpr ⟨records, hRecords, rfl⟩, ?_⟩⟩⟩
    rw [List.map_append, titleLines_eq]
    rfl

theorem length_titleRecords {columns : CsvColumns} {record : List Value}
    (h : record ∈ titleRecords columns) : record.length = columns.paths.length := by
  unfold titleRecords at h
  split at h
  · cases h
  · obtain rfl := List.mem_singleton.mp h
    cases columns with
    | untitled paths => contradiction
    | titled columns =>
      show (columns.map Prod.snd).length = (columns.map Prod.fst).length
      rw [List.length_map, List.length_map]

/-- Every record of an export has as many fields as there are columns. -/
theorem IsTable.map_length (h : IsTable db columns rows table) :
    table.map List.length =
      List.replicate ((titleRecords columns).length + rows.length) columns.paths.length := by
  obtain ⟨records, rfl, hRecords⟩ := h
  have hRows : ∀ record ∈ records, record.length = columns.paths.length := by
    intro record hMem
    obtain ⟨i, hi, rfl⟩ := List.mem_iff_getElem.mp hMem
    have hRecord := hRecords.get (hRecords.length_eq ▸ hi) hi
    exact (mapM_eq_ok_iff.mp hRecord).length_eq.symm
  rw [List.eq_replicate_iff, List.length_map, List.length_append, hRecords.length_eq]
  refine ⟨rfl, ?_⟩
  intro n hn
  obtain ⟨record, hMem, rfl⟩ := List.mem_map.mp hn
  exact (List.mem_append.mp hMem).elim length_titleRecords (hRows record)

/-- The fields of a record as characters. -/
def fieldsOf (record : List Value) : Csv.Record := record.map fun v => (Csv.cellText v).toList

/-- **The records that an export is read as.** An export is the table of the page that it reads, line
by line. A reader that takes carriage returns for line breaks finds in it as many records as the
table has, each with a field for each column, exactly if no record is broken. If no text holds a
line break outside quotation marks, it finds the texts of the table. -/
theorem exported_records_iff (h : r.exportLines db q = .ok lines) :
    ∃ p columns table, r.exportPage db q = .ok p ∧ CsvColumns.ofValue r.csvColumns = .ok columns ∧
      IsTable db columns p.rows table ∧ lines = table.map Csv.line ∧
      ((Csv.readText .all (String.join lines)).map List.length =
          List.replicate ((titleRecords columns).length + p.rows.length) columns.paths.length ↔
        ∀ record ∈ table, Csv.IsUnbroken (fieldsOf record)) ∧
      ((∀ record ∈ table, ∀ f ∈ fieldsOf record, Csv.Breaks.all.Spares f) →
        Csv.readText .all (String.join lines) = table.map fun record => record.map Csv.cellText) := by
  obtain ⟨p, columns, table, hPage, hColumns, hTable, rfl⟩ := exportLines_eq_ok_iff.mp h
  refine ⟨p, columns, table, hPage, hColumns, hTable, rfl, ?_, ?_⟩
  · have hShape := Csv.shape_read_lines_iff (table.map fieldsOf)
    have hLengths : (table.map fieldsOf).map List.length = table.map List.length := by
      rw [List.map_map]
      exact List.map_congr_left fun record _ => List.length_map _
    rw [hLengths, hTable.map_length, List.forall_mem_map] at hShape
    rw [← hShape, Csv.readText, Csv.toList_join_lines, List.map_map]
    simp only [Function.comp_def, List.length_map]
    rfl
  · intro hSpared
    refine Csv.readText_join_lines table fun record hRecord v hv => ?_
    exact hSpared record hRecord _ (List.mem_map_of_mem hv)

/-! ## A forged record -/

/-- The categories, exported with their names. -/
def categoryNames : Resource :=
  { Resource.ofModel Sample.category with csvColumns := .mapping [(.text "name", .text "Name")] }

/-- A shop with one category, of this name. -/
def oneCategory (name : String) : Database :=
  ⟨Sample.schema, [("categories", [Sample.named 1 name (Sample.serial 0xA 1)])]⟩

/-- The request for all rows at once. -/
def everything : SearchRequest := { SearchRequest.empty with skipPagination := true }

/-- The record of the category. -/
def categoryRecord (name : String) : Value :=
  .mapping [(.text "id", .int 1), (.text "name", .text name),
    (.text "external_id", .text "aaaaaaaa-0000-4000-8000-000000000001")]

theorem exportPage_oneCategory (name : String) :
    categoryNames.exportPage (oneCategory name) everything = .ok ⟨[categoryRecord name], none⟩ := by
  have hCheck : (Selection.ofModel Sample.category Database.dialect).check (oneCategory name) .rows =
      .ok () := Selection.check_of_isFaultless (by decide) nofun
  have hOrdered : (Selection.ofModel Sample.category Database.dialect).ordered (oneCategory name) =
      [Sample.named 1 name (Sample.serial 0xA 1)] := List.mergeSort_singleton _
  have hAll : (Selection.ofModel Sample.category Database.dialect).all (oneCategory name) =
      .ok [Sample.named 1 name (Sample.serial 0xA 1)] :=
    bind_eq_ok_iff.mpr ⟨(), hCheck, congrArg Except.ok hOrdered⟩
  have hRecord : (oneCategory name).serialize Sample.category "to_dict"
      (Sample.named 1 name (Sample.serial 0xA 1)) = .ok (categoryRecord name) := rfl
  refine bind_eq_ok_iff.mpr ⟨_, rfl, ?_⟩
  refine (Paginator.result_full rfl).trans ?_
  have hRows : Paginator.serializeAll ((Selection.ofModel Sample.category Database.dialect).source
      (oneCategory name)) "to_dict" ((Selection.ofModel Sample.category Database.dialect).all
      (oneCategory name)) = .ok [categoryRecord name] :=
    bind_eq_ok_iff.mpr ⟨_, hAll, mapM_eq_ok_iff.mpr (.cons hRecord .nil)⟩
  exact congrArg (Except.map _) hRows

/-- What is exported of the shop: the title and the name. -/
theorem exportLines_oneCategory (name : String) :
    categoryNames.exportLines (oneCategory name) everything =
      .ok [Csv.line [.text "Name"], Csv.line [.text name]] :=
  bind_eq_ok_iff.mpr ⟨_, exportPage_oneCategory name, rfl⟩

/-- A carriage return between quotation marks breaks no record: a comma in the name is enough. -/
theorem exported_records_iff_quotedReturn :
    ∃ p lines, categoryNames.exportPage (oneCategory "Phones,\rTablets") everything = .ok p ∧
      categoryNames.exportLines (oneCategory "Phones,\rTablets") everything = .ok lines ∧
      p.rows.length = 1 ∧
      (Csv.readText .all (String.join lines)).map List.length = List.replicate 2 1 ∧
      Csv.readText .all (String.join lines) = [["Name"], ["Phones,\rTablets"]] := by
  have hLines := exportLines_oneCategory "Phones,\rTablets"
  obtain ⟨p, columns, table, hPage, hColumns, ⟨records, hTable, hRecords⟩, -, hShape, hTexts⟩ :=
    exported_records_iff hLines
  obtain rfl := Except.ok.inj (hPage.symm.trans (exportPage_oneCategory _))
  obtain rfl := Except.ok.inj (hColumns.symm.trans rfl)
  obtain ⟨record, _, hRecord, hNil, rfl⟩ := List.forall₂_cons_left_iff.mp hRecords
  obtain rfl := Except.ok.inj (hRecord.symm.trans rfl)
  cases hNil
  subst hTable
  refine ⟨_, _, hPage, hLines, rfl, hShape.mpr (by decide +kernel),
    hTexts (by decide)⟩

/-- **A text can forge records**: a name with a carriage return makes two records of one row. -/
theorem carriageReturn_forges :
    ∃ p lines, categoryNames.exportPage (oneCategory "Phones\rTablets") everything = .ok p ∧
      categoryNames.exportLines (oneCategory "Phones\rTablets") everything = .ok lines ∧
      p.rows.length = 1 ∧
      Csv.readText .all (String.join lines) = [["Name"], ["Phones"], ["Tablets"]] :=
  ⟨_, _, exportPage_oneCategory _, exportLines_oneCategory _, rfl, by decide⟩

end Resource

end Winnow
