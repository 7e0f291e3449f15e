import Winnow.Proofs.Text.SnakeCase
import Winnow.Query.Sort

/-!
# Winnow.Proofs.Query.SortText — sort texts spell clauses

A sort text is read piece by piece: a comma puts the clauses of two texts one after the other
(`read_append`). Clauses are written the same way, with a dash before those that descend (`written`).

* `IsNormal`: what a clause is like that a text can spell.
* `isNormal_of_mem_read`: every clause that has been read is such a clause.
* `read_written_iff`: the lists of such clauses are the ones that are read back.
* `sort_texts_are_read_back`: the laws of reading and writing together.
-/

namespace Winnow.SortClause

/-- The piece of a sort text that spells the clause. -/
def piece (c : SortClause) : String := if c.descending then "-" ++ c.field else c.field

/-- The sort text of clauses. -/
def written (cs : List SortClause) : String := ",".intercalate (cs.map piece)

/-- Is the clause one that a text can spell? It names a field in snake case, without a comma and, if
it ascends, without a dash in front. -/
structure IsNormal (c : SortClause) : Prop where
  ne_empty : c.field ≠ ""
  comma_not_mem : ',' ∉ c.field.toList
  snakeCase_eq : Text.snakeCase c.field = c.field
  dash : c.descending = false → c.field.toList.head? ≠ some '-'

variable {c : SortClause} {cs : List SortClause}

/-! ## Writing and reading -/

/-- **Sort texts are read piece by piece.** -/
theorem read_append (a b : String) : read (a ++ "," ++ b) = read a ++ read b := by
  have hChars : (a ++ "," ++ b).toList = a.toList ++ ',' :: b.toList := by simp
  rw [read, hChars, Text.splitChars_append_cons, List.filterMap_append, read, read]

/-- **One piece**: a clause that can be spelled is read from its piece. -/
theorem ofToken?_piece (h : c.IsNormal) : ofToken? c.piece.toList = some c := by
  obtain ⟨field, descending⟩ := c
  have hSnake : Text.snakeChars field.toList = field.toList := by
    have hField := congrArg String.toList h.snakeCase_eq
    rwa [Text.snakeCase, String.toList_ofList] at hField
  have hTrimmed : Text.IsTrimmed field.toList := hSnake ▸ Text.isTrimmed_snakeChars field.toList
  cases descending with
  | true =>
    have hPiece : (piece ⟨field, true⟩).toList = '-' :: field.toList := by simp [piece]
    rw [hPiece, ofToken?, Text.trimChars_of_isTrimmed (hTrimmed.cons (by decide))]
    simp [hSnake, h.ne_empty]
  | false =>
    have hPiece : (piece ⟨field, false⟩).toList = field.toList := by simp [piece]
    rw [hPiece, ofToken?, Text.trimChars_of_isTrimmed hTrimmed]
    split
    · rename_i hNil
      exact absurd (by simpa using hNil) h.ne_empty
    · rename_i rest hDash
      exact absurd (congrArg List.head? hDash) (h.dash rfl)
    · rw [hSnake, String.ofList_toList]

theorem read_piece (h : c.IsNormal) : read c.piece = [c] := by
  have hComma : ',' ∉ c.piece.toList := by
    rw [piece]
    split
    · simpa using h.comma_not_mem
    · exact h.comma_not_mem
  rw [read, Text.splitChars_of_not_mem hComma, List.filterMap_cons_some (ofToken?_piece h),
    List.filterMap_nil]

/-- **What can be spelled is read back**, piece by piece. -/
theorem read_written (h : ∀ c ∈ cs, c.IsNormal) : read (written cs) = cs := by
  induction cs with
  | nil => decide
  | cons c cs ih =>
    obtain ⟨hHead, hRest⟩ := List.forall_mem_cons.mp h
    cases cs with
    | nil => rw [written, List.map_singleton, String.intercalate_singleton, read_piece hHead]
    | cons next cs =>
      have hText : written (c :: next :: cs) = c.piece ++ "," ++ written (next :: cs) :=
        String.intercalate_cons_cons
      rw [hText, read_append, read_piece hHead, ih hRest, List.singleton_append]

/-! ## What has been read -/

/-- The field of a clause is the snake-case form of a part of its piece. -/
theorem isNormal_of_snakeChars {field : List Char} {descending : Bool} (hComma : ',' ∉ field)
    (hVisible : Text.snakeChars field ≠ [])
    (hDash : descending = false → (Text.trimChars field).head? ≠ some '-') :
    IsNormal ⟨String.ofList (Text.snakeChars field), descending⟩ where
  ne_empty := by simpa using hVisible
  comma_not_mem := by
    rw [String.toList_ofList]
    exact fun hMem =>
      hComma (Text.mem_of_mem_snakeChars (by decide) (by decide) (by decide) hMem)
  snakeCase_eq := by
    rw [Text.snakeCase, String.toList_ofList, Text.snakeChars_snakeChars]
  dash hAscending := by
    rw [String.toList_ofList]
    exact fun hHead =>
      hDash hAscending (Text.head?_of_head?_snakeChars (by decide) (by decide) hHead)

theorem isNormal_of_ofToken? {token : List Char} (hComma : ',' ∉ token)
    (h : ofToken? token = some c) : c.IsNormal := by
  have hTrimmed := Text.isTrimmed_trimChars token
  have hPart : ',' ∉ Text.trimChars token := fun hMem => hComma (Text.mem_of_mem_trimChars hMem)
  -- a piece with a dash in front spells a descending clause
  unfold ofToken? at h
  split at h
  · cases h
  · rename_i rest hToken
    dsimp only at h
    split at h
    · cases h
    · rename_i hVisible
      obtain rfl := Option.some.inj h
      rw [hToken] at hPart
      exact isNormal_of_snakeChars (fun hMem => hPart (List.mem_cons_of_mem _ hMem))
        (by simpa using hVisible) nofun
  · rename_i hSome hDash
    obtain rfl := Option.some.inj h
    refine isNormal_of_snakeChars hPart ?_ fun _ => ?_
    · rw [Ne, Text.snakeChars_eq_nil_iff, ← Text.trimChars_eq_nil_iff,
        Text.trimChars_of_isTrimmed hTrimmed]
      exact hSome
    · rw [Text.trimChars_of_isTrimmed hTrimmed]
      intro hHead
      obtain ⟨rest, hRest⟩ := List.head?_eq_some_iff.mp hHead
      exact hDash rest hRest

theorem isNormal_of_mem_read {s : String} (h : c ∈ read s) : c.IsNormal := by
  obtain ⟨token, hToken, hClause⟩ := List.mem_filterMap.mp h
  exact isNormal_of_ofToken? (Text.not_mem_of_mem_splitChars hToken) hClause

/-- **Which clauses are read back**: those that a text can spell. -/
theorem read_written_iff : read (written cs) = cs ↔ ∀ c ∈ cs, c.IsNormal := by
  refine ⟨fun h c hMem => ?_, read_written⟩
  rw [← h] at hMem
  exact isNormal_of_mem_read hMem

/-- **Sort texts are read back.** A comma between two texts puts their clauses one after the other.
Clauses whose fields are not empty, have no comma, do not begin with a dash and are in snake case
are read from the text in which they are written. So are the clauses of every text, which may have
blanks, humps and empty pieces. -/
theorem sort_texts_are_read_back (a b : String) :
    read (a ++ "," ++ b) = read a ++ read b ∧
    (∀ cs : List SortClause,
      (∀ c ∈ cs, c.field ≠ "" ∧ ',' ∉ c.field.toList ∧ c.field.toList.head? ≠ some '-' ∧
        Text.snakeCase c.field = c.field) →
      read (written cs) = cs) ∧
    read (written (read a)) = read a := by
  refine ⟨read_append a b, fun cs h => read_written_iff.mpr fun c hMem => ?_,
    read_written_iff.mpr fun c => isNormal_of_mem_read⟩
  obtain ⟨hSome, hComma, hDash, hSnake⟩ := h c hMem
  exact ⟨hSome, hComma, hSnake, fun _ => hDash⟩

/-- The newest first, and those of one day by size. -/
def newestFirst : List SortClause := [⟨"created_at", true⟩, ⟨"größe", false⟩]

theorem sort_texts_are_read_back_newestFirst :
    (∀ c ∈ newestFirst, c.field ≠ "" ∧ ',' ∉ c.field.toList ∧ c.field.toList.head? ≠ some '-' ∧
      Text.snakeCase c.field = c.field) ∧
    written newestFirst = "-created_at,größe" ∧ read "-created_at,größe" = newestFirst ∧
    read ("- createdAt,-," ++ "," ++ " Größe") = read "- createdAt,-," ++ read " Größe" ∧
    read (written (read "- createdAt,-,")) = read "- createdAt,-," := by
  have hFields : ∀ c ∈ newestFirst, c.field ≠ "" ∧ ',' ∉ c.field.toList ∧
      c.field.toList.head? ≠ some '-' ∧ Text.snakeCase c.field = c.field := by
    decide
  have hWritten : written newestFirst = "-created_at,größe" := by decide
  obtain ⟨hAppend, hRead, hAgain⟩ := sort_texts_are_read_back "- createdAt,-," " Größe"
  have hClauses := hRead newestFirst hFields
  rw [hWritten] at hClauses
  exact ⟨hFields, hWritten, hClauses, hAppend, hAgain⟩

end Winnow.SortClause
