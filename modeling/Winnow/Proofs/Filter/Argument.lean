import Winnow.Filter.Argument
import Winnow.Proofs.Store.Coercion
import Winnow.Proofs.Text.Trim

/-!
# Winnow.Proofs.Filter.Argument — the values in a text

A text between whose commas several values stand is read piece by piece: trimmed, and without the
blank ones (`Value.splitList_text`). Texts without commas that are joined by commas are their own
pieces again (`Text.split_intercalate`), and so are those in a list: between commas and in a list the
same values stand (`Value.splitList_intercalate`, `Value.splitList_of_lists`).
-/

namespace Winnow

namespace Text

/-- The values between the commas of a text: trimmed, without the blank ones. -/
def pieces (s : String) : List String := ((split ',' s).map trim).filter (!isAllBlank ·)

/-- A blank text has no pieces: there is no comma in it, and nothing is left when it is trimmed. -/
theorem pieces_of_isAllBlank {s : String} (h : isAllBlank s = true) : pieces s = [] := by
  have hComma : ',' ∉ s.toList := fun hMem =>
    absurd (List.all_eq_true.mp h ',' hMem) (by decide)
  have hTrimmed : trimChars s.toList = [] := trimChars_eq_nil_iff.mpr h
  simp [pieces, split, splitChars_of_not_mem hComma, trim, hTrimmed, isAllBlank]

/-- Is the text left as it is between commas: trimmed, not blank, and without a comma? -/
structure IsPiece (s : String) : Prop where
  trim_eq : trim s = s
  visible : isAllBlank s = false
  comma_not_mem : ',' ∉ s.toList

variable {ss : List String}

/-- Pieces are trimmed and not blank already. -/
theorem filter_map_trim (h : ∀ s ∈ ss, IsPiece s) : (ss.map trim).filter (!isAllBlank ·) = ss := by
  have hTrim : ss.map trim = ss := by
    rw [List.map_congr_left fun s hs => (h s hs).trim_eq]
    exact List.map_id' ss
  rw [hTrim, List.filter_eq_self]
  exact fun s hs => by simp [(h s hs).visible]

/-- A text that is joined with others is not lost: if it is not blank, neither is the whole. -/
theorem isAllBlank_intercalate {s : String} (hMem : s ∈ ss) (hVisible : isAllBlank s = false) :
    isAllBlank (",".intercalate ss) = false := by
  induction ss with
  | nil => cases hMem
  | cons t ss ih =>
    cases ss with
    | nil =>
      obtain rfl := List.mem_singleton.mp hMem
      simpa using hVisible
    | cons u ss =>
      have hJoined : isAllBlank (",".intercalate (t :: u :: ss)) =
          (isAllBlank t && isAllBlank "," && isAllBlank (",".intercalate (u :: ss))) := by
        simp [isAllBlank, String.intercalate_cons_cons, Bool.and_assoc]
      rw [hJoined]
      rcases List.mem_cons.mp hMem with rfl | hMem
      · rw [hVisible, Bool.false_and, Bool.false_and]
      · rw [ih hMem, Bool.and_false]

end Text

namespace Value

theorem trimmed_text (s : String) : (text s).trimmed = text (Text.trim s) := rfl

theorem isBlank_text (s : String) : (text s).isBlank = Text.isAllBlank s := rfl

theorem splitList_text (s : String) : (text s).splitList = (Text.pieces s).map text := by
  have hUnfolded : (text s).splitList =
      (((Text.split ',' s).map text).map trimmed).filter (!·.isBlank) := rfl
  rw [hUnfolded, Text.pieces]
  simp only [List.filter_map, List.map_map]
  rfl

/-- The texts of a list are trimmed, and the blank ones dropped. -/
theorem splitList_list (ss : List String) :
    (list (ss.map text)).splitList =
      ((ss.map Text.trim).filter (!Text.isAllBlank ·)).map text := by
  have hUnfolded : (list (ss.map text)).splitList =
      ((ss.map text).map trimmed).filter (!·.isBlank) := rfl
  rw [hUnfolded]
  simp only [List.filter_map, List.map_map]
  rfl

/-- Texts without commas are the same values in a list and between commas. -/
theorem splitList_intercalate {ss : List String} (hSome : ss ≠ [])
    (hCommas : ∀ s ∈ ss, ',' ∉ s.toList) :
    (text (",".intercalate ss)).splitList = (list (ss.map text)).splitList := by
  rw [splitList_text, splitList_list, Text.pieces, Text.split_intercalate rfl hSome hCommas]

/-- The value lists the texts: joined by commas, or one by one. -/
inductive Lists (ss : List String) : Value → Prop
  | text : Lists ss (text (",".intercalate ss))
  | list : Lists ss (list (ss.map text))

variable {v : Value} {ss : List String}

/-- **Pieces that are listed** are the values of the argument. -/
theorem splitList_of_lists (hSome : ss ≠ []) (hPieces : ∀ s ∈ ss, Text.IsPiece s)
    (h : v.Lists ss) : v.splitList = ss.map text := by
  have hList : (list (ss.map Value.text)).splitList = ss.map Value.text := by
    rw [splitList_list, Text.filter_map_trim hPieces]
  cases h with
  | text => rw [splitList_intercalate hSome fun s hs => (hPieces s hs).comma_not_mem, hList]
  | list => exact hList

theorem isBlank_of_lists (hSome : ss ≠ []) (hPieces : ∀ s ∈ ss, Text.IsPiece s)
    (h : v.Lists ss) : v.isBlank = false := by
  obtain ⟨s, rest, rfl⟩ := List.exists_cons_of_ne_nil hSome
  cases h with
  | text => exact Text.isAllBlank_intercalate List.mem_cons_self (hPieces s List.mem_cons_self).visible
  | list => rfl

end Value

end Winnow
