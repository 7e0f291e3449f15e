import Winnow.Request.BracketKey
import Mathlib.Data.List.TakeWhile

/-!
# Winnow.Proofs.Request.BracketKey — keys that are written and read

A key is written as a name and segments between brackets. A name that is not empty and segments
without brackets are read back as they are (`BracketKey.segments_written`), whether segments are empty
or not. So every place whose names can be written has a key that reads as this place
(`BracketKey.read_spell`), and no two places share it.
-/

namespace Winnow.BracketKey

/-! ## Segments -/

/-- Is there no bracket in the text? -/
def isPlain (s : String) : Bool := s.toList.all (!isBracket ·)

/-- Can the text be a name? -/
def isName (s : String) : Bool := !s.isEmpty && isPlain s

/-- A segment between brackets. -/
def bracketed (segment : String) : List Char := '[' :: (segment.toList ++ [']'])

/-- The key with a name and segments between brackets. -/
def written (name : String) (segments : List String) : String :=
  String.ofList (name.toList ++ segments.flatMap bracketed)

/-- What a plain text leaves of the text that it begins, up to a bracket. -/
theorem takeWhile_of_isPlain {s : String} (h : isPlain s = true) (c : Char) (rest : List Char)
    (hBracket : isBracket c = true) :
    (s.toList ++ c :: rest).takeWhile (!isBracket ·) = s.toList ∧
      (s.toList ++ c :: rest).dropWhile (!isBracket ·) = c :: rest := by
  have hPlain := List.all_eq_true.mp h
  rw [List.takeWhile_append_of_pos hPlain, List.dropWhile_append_of_pos hPlain]
  simp [hBracket]

theorem readBrackets?_flatMap {segments : List String} (h : ∀ s ∈ segments, isPlain s = true) :
    ∀ {fuel : Nat}, segments.length ≤ fuel →
      readBrackets? fuel (segments.flatMap bracketed) = some (segments.map String.toList) := by
  induction segments with
  | nil =>
    intro fuel _
    cases fuel <;> rfl
  | cons s segments ih =>
    intro fuel hFuel
    obtain ⟨hHead, hRest⟩ := List.forall_mem_cons.mp h
    obtain ⟨fuel, rfl⟩ : ∃ n, fuel = n + 1 := Nat.exists_eq_succ_of_ne_zero (by
      simp only [List.length_cons] at hFuel
      omega)
    obtain ⟨hTake, hDrop⟩ := takeWhile_of_isPlain hHead ']' (segments.flatMap bracketed) rfl
    have hCons : (s :: segments).flatMap bracketed =
        '[' :: (s.toList ++ ']' :: segments.flatMap bracketed) := by
      simp [bracketed]
    rw [hCons, readBrackets?]
    simp only [hDrop, hTake, ih hRest (Nat.le_of_succ_le_succ hFuel), Option.map_some, List.map_cons]

theorem length_le_length_flatMap (segments : List String) :
    segments.length ≤ (segments.flatMap bracketed).length := by
  induction segments with
  | nil => exact Nat.le_refl 0
  | cons s segments ih =>
    rw [List.flatMap_cons, List.length_append, List.length_cons, bracketed, List.length_cons]
    omega

/-- **A written key is read segment by segment.** -/
theorem segments_written {name : String} {brackets : List String} (hName : isName name = true)
    (hBrackets : ∀ s ∈ brackets, isPlain s = true) :
    segments (written name brackets) = name :: brackets := by
  obtain ⟨hNonempty, hPlain⟩ : name.toList ≠ [] ∧ isPlain name = true := by
    simpa [isName] using hName
  -- the name ends where the first bracket opens
  have hSplit : (name.toList ++ brackets.flatMap bracketed).takeWhile (!isBracket ·) = name.toList ∧
      (name.toList ++ brackets.flatMap bracketed).dropWhile (!isBracket ·) =
        brackets.flatMap bracketed := by
    cases brackets with
    | nil =>
      have hAll := List.all_eq_true.mp hPlain
      simp [List.takeWhile_eq_self_iff.mpr hAll, List.dropWhile_eq_nil_iff.mpr hAll]
    | cons s brackets =>
      have hCons : (s :: brackets).flatMap bracketed =
          '[' :: (s.toList ++ ']' :: brackets.flatMap bracketed) := by
        simp [bracketed]
      rw [hCons]
      exact takeWhile_of_isPlain hPlain '[' _ rfl
  have hRead : readBrackets? (name.toList ++ brackets.flatMap bracketed).length
      (brackets.flatMap bracketed) = some (brackets.map String.toList) := by
    apply readBrackets?_flatMap hBrackets
    rw [List.length_append]
    exact Nat.le_trans (length_le_length_flatMap brackets) (Nat.le_add_left _ _)
  simp only [segments, written, String.toList_ofList, hSplit.1, hSplit.2, hRead]
  split
  · rename_i first rest pieces hCons hPieces
    obtain rfl := Option.some.inj hPieces
    simp
  · rename_i hNot
    obtain ⟨c, cs, hCons⟩ := List.exists_cons_of_ne_nil hNonempty
    exact absurd rfl (hNot c cs _ hCons)

/-! ## Places -/

/-- The empty segments at the end of a key that tell what is done at a place. -/
def ending : Slot → List String
  | .assign => []
  | .append => [""]
  | .visit => ["", ""]

/-- The key of a place. -/
def spell (k : BracketKey) : String :=
  match k.path with
  | [] => ""
  | name :: names => written name (names ++ ending k.slot)

/-- Can the names on the way to the place be written? -/
def isSpelled (k : BracketKey) : Bool := !k.path.isEmpty && k.path.all isName

theorem isName_ne_empty {s : String} (h : isName s = true) : s.isEmpty = false := by
  simp only [isName, Bool.and_eq_true, Bool.not_eq_true'] at h
  exact h.1

theorem isPlain_of_isName {s : String} (h : isName s = true) : isPlain s = true :=
  (Bool.and_eq_true_iff.mp h).2

theorem path_ofSegments (name : String) (brackets : List String) :
    (ofSegments (name :: brackets)).path = name :: brackets.filter (!·.isEmpty) := by
  rw [ofSegments]
  repeat' split
  all_goals rfl

/-- A value stands alone at a place whose key does not end in empty brackets. -/
theorem slot_ofSegments_of_getLast? {name : String} {brackets : List String}
    (h : brackets.getLast? ≠ some "") : (ofSegments (name :: brackets)).slot = .assign := by
  rcases List.eq_nil_or_concat brackets with rfl | ⟨before, last, rfl⟩
  · rfl
  · have hLast : last.isEmpty = false := by
      rw [List.concat_eq_append, List.getLast?_concat] at h
      simpa using h
    simp [ofSegments, hLast]

/-- Empty brackets at the end collect values, unless there are others before them. -/
theorem slot_ofSegments_concat (name : String) (before : List String) :
    (ofSegments (name :: (before ++ [""]))).slot =
      if before.getLast? = some "" then .visit else .append := by
  rcases List.eq_nil_or_concat before with rfl | ⟨front, previous, rfl⟩
  · rfl
  · rw [List.concat_eq_append, List.getLast?_concat]
    by_cases hPrevious : previous = ""
    · simp [ofSegments, hPrevious]
    · simp [ofSegments, hPrevious]

/-- **The place of a key is read back.** -/
theorem read_spell {k : BracketKey} (h : k.isSpelled = true) : read (spell k) = k := by
  obtain ⟨path, slot⟩ := k
  simp only [isSpelled, Bool.and_eq_true, Bool.not_eq_true', List.isEmpty_eq_false_iff] at h
  obtain ⟨name, names, rfl⟩ := List.exists_cons_of_ne_nil h.1
  obtain ⟨hName, hNames⟩ : isName name = true ∧ ∀ s ∈ names, isName s = true := by
    simpa using h.2
  have hPlain : ∀ s ∈ names ++ ending slot, isPlain s = true := by
    intro s hMem
    rcases List.mem_append.mp hMem with hMem | hMem
    · exact isPlain_of_isName (hNames s hMem)
    · have hEmpty : s = "" := by cases slot <;> simp_all [ending]
      rw [hEmpty]
      rfl
  have hFilter : (names ++ ending slot).filter (!·.isEmpty) = names := by
    have hEnding : (ending slot).filter (!·.isEmpty) = [] := by cases slot <;> rfl
    rw [List.filter_append, hEnding, List.append_nil, List.filter_eq_self]
    intro s hMem
    rw [isName_ne_empty (hNames s hMem)]
    rfl
  -- a name is not empty, so only the segments at the end decide what is done
  have hLast : names.getLast? ≠ some "" := by
    intro hEnd
    have hMem : "" ∈ names := List.mem_of_getLast? hEnd
    exact absurd (hNames "" hMem) (by decide)
  have hSlot : (ofSegments (name :: (names ++ ending slot))).slot = slot := by
    cases slot with
    | assign =>
      rw [ending, List.append_nil]
      exact slot_ofSegments_of_getLast? hLast
    | append => rw [ending, slot_ofSegments_concat, if_neg hLast]
    | visit =>
      have hTwo : names ++ ending .visit = names ++ [""] ++ [""] := by simp [ending]
      rw [hTwo, slot_ofSegments_concat, List.getLast?_concat, if_pos rfl]
  rw [read, spell, segments_written hName hPlain]
  have hPath := path_ofSegments name (names ++ ending slot)
  rw [hFilter] at hPath
  exact congrArg₂ BracketKey.mk hPath hSlot

end Winnow.BracketKey
