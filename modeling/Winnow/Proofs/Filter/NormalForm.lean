import Winnow.Proofs.Filter.Path
import Winnow.Proofs.Store.Coercion
import Winnow.Proofs.Text.SnakeCase

/-!
# Winnow.Proofs.Filter.NormalForm — one written form for each field path

Many keys spell the same field path: parts may have humps and blanks around them. The written form of
the path is one of them, and the one that all others come to. It has the parts of the path in snake
case with points between them, and is read part by part (`FieldPath.segments_eq`): no point comes
into a part, no part is lost, and what has been put for `id` at the end of a path stays.

* `FieldPath.IsNormal`: what the names of a path are like that is read back.
* `FieldPath.read_text_of_isNormal`: such a path is read back.
* `FieldPath.isNormal_of_read`: every path that has been read is such a path.
* `FieldPath.paths_have_normal_form`: which keys spell a path, and that the written form spells it.
-/

namespace Winnow

namespace FieldPath

variable {externalId key : String} {p : FieldPath}

/-! ## Parts of a key -/

/-- The parts of a key are the snake-case forms of what stands between its points; blanks at the ends
of the key are at the ends of parts, too. -/
theorem segments_eq (s : String) : segments s = (Text.split '.' s).map Text.snakeCase := by
  have hForms (pieces : List (List Char)) : (pieces.map String.ofList).map Text.snakeCase =
      ((pieces.map Text.trimChars).map Text.snakeChars).map String.ofList := by
    simp [Text.snakeCase, Text.snakeChars_trimChars, Function.comp_def]
  rw [segments, Text.split, Text.split, Text.toList_trim, hForms, hForms,
    Text.map_trimChars_splitChars (by decide)]

/-- The parts of a key are in snake case and without points. -/
theorem of_mem_segments {s name : String} (h : name ∈ segments s) :
    Text.snakeCase name = name ∧ '.' ∉ name.toList := by
  rw [segments_eq] at h
  obtain ⟨part, hPart, rfl⟩ := List.mem_map.mp h
  obtain ⟨cs, hPiece, rfl⟩ := List.mem_map.mp hPart
  refine ⟨Text.snakeCase_snakeCase _, fun hPoint => ?_⟩
  rw [Text.snakeCase, String.toList_ofList, String.toList_ofList] at hPoint
  exact Text.not_mem_of_mem_splitChars hPiece
    (Text.mem_of_mem_snakeChars (by decide) (by decide) (by decide) hPoint)

/-- **Which keys spell a path**: those without a blank part. All others are refused. -/
theorem read_text (externalId key : String) :
    read externalId (.text key) =
      if (Text.split '.' key).any Text.isAllBlank then .error (.invalidField key)
      else .ok (ofSegments externalId (segments key)) := by
  have hEmpty : (fun name : String => name.isEmpty) ∘ Text.snakeCase = Text.isAllBlank := by
    funext part
    rw [Function.comp_apply, Bool.eq_iff_iff, String.isEmpty_iff, Text.snakeCase_eq_empty_iff]
  have hAny : (segments key).any (·.isEmpty) = (Text.split '.' key).any Text.isAllBlank := by
    rw [segments_eq, List.any_map, hEmpty]
  unfold read
  dsimp only
  rw [Value.displayOrEmpty_text, hAny]
  rfl

theorem read_text_eq_ok_iff : read externalId (.text key) = .ok p ↔
    (∀ part ∈ Text.split '.' key, Text.isAllBlank part = false) ∧
      ofSegments externalId (segments key) = p := by
  rw [read_text]
  cases hAny : (Text.split '.' key).any Text.isAllBlank with
  | true =>
    obtain ⟨part, hMem, hBlank⟩ := List.any_eq_true.mp hAny
    refine ⟨nofun, fun h => ?_⟩
    exact absurd (h.1 part hMem) (by simp [hBlank])
  | false =>
    rw [if_neg Bool.false_ne_true, Except.ok.injEq]
    refine (and_iff_right fun part hMem => ?_).symm
    simpa using List.any_eq_false.mp hAny part hMem

/-! ## Paths that are read back -/

/-- A name in a written path: it is in snake case, is not empty and has no point in it. -/
structure IsPart (name : String) : Prop where
  snakeCase_eq : Text.snakeCase name = name
  ne_empty : name ≠ ""
  point_not_mem : '.' ∉ name.toList

/-- Is the path one that is read, where `externalId` is the column of external identifiers? All its
names can be written, and it does not ask for the column `id` of a related row unless that is the
one. -/
structure IsNormal (externalId : String) (p : FieldPath) : Prop where
  parts : ∀ name ∈ p.relations ++ [p.column], IsPart name
  column : p.relations ≠ [] → p.column = "id" → externalId = "id"

/-- The written form has the names of the path as its parts. -/
theorem split_text (h : ∀ name ∈ p.relations ++ [p.column], IsPart name) :
    Text.split '.' p.text = p.relations ++ [p.column] :=
  Text.split_intercalate rfl (by simp) fun name hMem => (h name hMem).point_not_mem

/-- **A path in normal form is read back.** -/
theorem read_text_of_isNormal (h : p.IsNormal externalId) :
    read externalId (.text p.text) = .ok p := by
  have hSegments : segments p.text = p.relations ++ [p.column] := by
    rw [segments_eq, split_text h.parts]
    exact (List.map_congr_left fun name hMem => (h.parts name hMem).snakeCase_eq).trans
      (List.map_id' _)
  rw [read_text_eq_ok_iff, split_text h.parts, hSegments]
  refine ⟨fun name hMem => ?_, ?_⟩
  · have hPart := h.parts name hMem
    rw [Bool.eq_false_iff]
    intro hBlank
    exact hPart.ne_empty (hPart.snakeCase_eq.symm.trans (Text.snakeCase_eq_empty_iff.mpr hBlank))
  · obtain ⟨relations, column⟩ := p
    rw [ofSegments, List.dropLast_concat, List.getLast?_concat, Option.getD_some]
    dsimp only
    split
    · rename_i hId
      -- here `id` can only stand for itself
      obtain ⟨hRelations, hColumn⟩ : relations ≠ [] ∧ column = "id" := by simpa using hId
      rw [h.column hRelations hColumn, hColumn]
    · rfl

/-- **What is read is in normal form**, if the column of external identifiers can be written. -/
theorem isNormal_of_read (hId : IsPart externalId)
    (hRead : read externalId (.text key) = .ok p) : p.IsNormal externalId := by
  obtain ⟨hVisible, rfl⟩ := read_text_eq_ok_iff.mp hRead
  have hPart : ∀ name ∈ segments key, IsPart name := by
    intro name hMem
    obtain ⟨hSnake, hPoint⟩ := of_mem_segments hMem
    refine ⟨hSnake, ?_, hPoint⟩
    rw [segments_eq] at hMem
    obtain ⟨part, hPart, rfl⟩ := List.mem_map.mp hMem
    intro hEmpty
    exact Bool.false_ne_true ((hVisible part hPart).symm.trans (Text.snakeCase_eq_empty_iff.mp hEmpty))
  have hSome : segments key ≠ [] := by
    rw [segments_eq, Text.split]
    simpa using Text.splitChars_ne_nil '.' key.toList
  -- the last segment is the column, where it may be replaced; the others are relations
  obtain ⟨front, last, hSegments⟩ := (List.eq_nil_or_concat' (segments key)).resolve_left hSome
  rw [hSegments] at hPart ⊢
  have hLast : (ofSegments externalId (front ++ [last])).column =
      if !front.isEmpty && last == "id" then externalId else last := by
    simp [ofSegments]
  have hFront : (ofSegments externalId (front ++ [last])).relations = front := by
    simp [ofSegments]
  refine ⟨?_, ?_⟩
  · rw [hFront, hLast]
    intro name hMem
    rcases List.mem_append.mp hMem with hMem | hMem
    · exact hPart name (List.mem_append_left _ hMem)
    · rw [List.mem_singleton.mp hMem]
      split
      · exact hId
      · exact hPart last (List.mem_append_right _ List.mem_cons_self)
  · rw [hFront, hLast]
    intro hRelations hColumn
    by_cases hEnd : last = "id"
    · simpa [hRelations, hEnd] using hColumn
    · simp [hEnd] at hColumn

/-- **Field paths have a normal form.** Let the column of external identifiers have a name that is
not empty, has no points and is in snake case. A key spells a path exactly if none of its parts is
blank. The written form of the path spells the same path again, so that an entry under it makes the
calls of the entry under the key. And a path through relations does not end in `id`, unless this is
the column of external identifiers. -/
theorem paths_have_normal_form (externalId key : String) (hSome : externalId ≠ "")
    (hPoint : '.' ∉ externalId.toList) (hSnake : Text.snakeCase externalId = externalId) :
    ((∃ p, read externalId (.text key) = .ok p) ↔
      ∀ part ∈ Text.split '.' key, Text.isAllBlank part = false) ∧
    ((¬ ∃ p, read externalId (.text key) = .ok p) →
      read externalId (.text key) = .error (.invalidField key)) ∧
    ∀ p, read externalId (.text key) = .ok p →
      read externalId (.text p.text) = .ok p ∧
      (∀ dialect v, Filter.entryCalls dialect externalId (.text p.text) v =
        Filter.entryCalls dialect externalId (.text key) v) ∧
      (p.relations ≠ [] → p.column = "id" → externalId = "id") := by
  refine ⟨?_, ?_, ?_⟩
  · simp [read_text_eq_ok_iff]
  · intro hNone
    rw [read_text] at hNone ⊢
    split
    · rfl
    · rename_i hAny
      rw [if_neg hAny] at hNone
      exact absurd ⟨_, rfl⟩ hNone
  · intro p hRead
    have hNormal := isNormal_of_read ⟨hSnake, hSome, hPoint⟩ hRead
    have hAgain := read_text_of_isNormal hNormal
    refine ⟨hAgain, fun dialect v => ?_, hNormal.column⟩
    rw [Filter.entryCalls, Filter.entryCalls, hAgain, hRead]

/-- A key with humps and blanks that ends in `id`. -/
theorem paths_have_normal_form_orderItems :
    read "external_id" (.text " orderItems.HTTPStatus. id") =
      .ok ⟨["order_items", "http_status"], "external_id"⟩ ∧
    (FieldPath.mk ["order_items", "http_status"] "external_id").text =
      "order_items.http_status.external_id" ∧
    read "external_id" (.text "order_items.http_status.external_id") =
      .ok ⟨["order_items", "http_status"], "external_id"⟩ ∧
    ∀ dialect v,
      Filter.entryCalls dialect "external_id" (.text "order_items.http_status.external_id") v =
        Filter.entryCalls dialect "external_id" (.text " orderItems.HTTPStatus. id") v := by
  have hRead : read "external_id" (.text " orderItems.HTTPStatus. id") =
      .ok ⟨["order_items", "http_status"], "external_id"⟩ :=
    read_eq_ok_iff.mpr (by decide +kernel)
  have hText : (FieldPath.mk ["order_items", "http_status"] "external_id").text =
      "order_items.http_status.external_id" := by decide
  obtain ⟨hAgain, hCalls, -⟩ := (paths_have_normal_form "external_id" " orderItems.HTTPStatus. id"
    (by decide) (by decide) (by decide)).2.2 _ hRead
  rw [hText] at hAgain hCalls
  exact ⟨hRead, hText, hAgain, hCalls⟩

end FieldPath

end Winnow
