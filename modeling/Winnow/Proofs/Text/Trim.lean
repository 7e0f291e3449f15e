import Winnow.Text.Blank
import Winnow.Text.Split
import Mathlib.Data.List.DropRight
import Mathlib.Data.List.TakeWhile

/-!
# Winnow.Proofs.Text.Trim — trimmed texts and pieces

A text is trimmed if no blank is at its ends (`IsTrimmed`), and then trimming leaves it as it is
(`stripChars_eq_self`). A text is split at every separator and nowhere else: pieces without
separators that are joined are split again (`splitChars_joinChars`, `split_intercalate`), and nothing
but the pieces of a text makes it up (`split_eq_iff`).

`map_trimChars_splitChars`: pieces that are trimmed are the same whether the whole text has been
trimmed before or not.
-/

namespace Winnow.Text

/-! ## Trimming -/

theorem dropWhile_eq_self {p : Char → Bool} {cs : List Char} (h : ∀ c ∈ cs.head?, p c = false) :
    cs.dropWhile p = cs := by
  cases cs with
  | nil => rfl
  | cons c cs => exact List.dropWhile_cons_of_neg (by rw [h c rfl]; decide)

/-- The run of characters at the begin of a text, and what comes after it. -/
theorem takeWhile_append_stop {p : Char → Bool} {run rest : List Char} (h : ∀ c ∈ run, p c)
    (hStop : ∀ c ∈ rest.head?, p c = false) : (run ++ rest).takeWhile p = run := by
  rw [List.takeWhile_append_of_pos h]
  cases rest with
  | nil => simp
  | cons c rest => simp [hStop c rfl]

theorem dropWhile_append_stop {p : Char → Bool} {run rest : List Char} (h : ∀ c ∈ run, p c)
    (hStop : ∀ c ∈ rest.head?, p c = false) : (run ++ rest).dropWhile p = rest := by
  rw [List.dropWhile_append_of_pos h, dropWhile_eq_self hStop]

/-- A text is not trimmed if its first and its last character are not among what is dropped. -/
theorem stripChars_eq_self {p : Char → Bool} {cs : List Char} (hFirst : ∀ c ∈ cs.head?, p c = false)
    (hLast : ∀ c ∈ cs.getLast?, p c = false) : stripChars p cs = cs := by
  have h : cs.reverse.dropWhile p = cs.reverse := dropWhile_eq_self (by simpa using hLast)
  simp [stripChars, dropWhile_eq_self hFirst, h]

theorem stripChars_of_forall {p : Char → Bool} {cs : List Char} (h : ∀ c ∈ cs, p c = false) :
    stripChars p cs = cs :=
  stripChars_eq_self (fun c hc => h c (List.mem_of_mem_head? hc))
    fun c hc => h c (List.mem_of_getLast? hc)

section Strip

variable {p : Char → Bool} {c : Char} {cs : List Char}

theorem stripChars_eq (p : Char → Bool) (cs : List Char) :
    stripChars p cs = (cs.dropWhile p).rdropWhile p := rfl

theorem stripChars_cons (h : p c = true) : stripChars p (c :: cs) = stripChars p cs := by
  rw [stripChars_eq, stripChars_eq, List.dropWhile_cons_of_pos h]

theorem stripChars_concat (h : p c = true) : stripChars p (cs ++ [c]) = stripChars p cs := by
  rw [stripChars_eq, stripChars_eq, List.dropWhile_append]
  split
  · rename_i hNone
    rw [List.isEmpty_iff.mp hNone, List.dropWhile_cons_of_pos h, List.dropWhile_nil]
  · rw [List.rdropWhile_concat, if_pos h]

theorem stripChars_eq_nil_iff : stripChars p cs = [] ↔ ∀ c ∈ cs, p c = true := by
  rw [stripChars_eq, List.rdropWhile_eq_nil_iff]
  constructor
  · intro h c hMem
    -- what is dropped first satisfies the test, too
    rw [← List.takeWhile_append_dropWhile (p := p) (l := cs), List.mem_append] at hMem
    exact hMem.elim List.mem_takeWhile_imp (h c)
  · exact fun h c hMem => h c ((List.dropWhile_sublist p).subset hMem)

end Strip

/-- There are no blanks at the ends. -/
structure IsTrimmed (cs : List Char) : Prop where
  head : ∀ c ∈ cs.head?, isBlank c = false
  last : ∀ c ∈ cs.getLast?, isBlank c = false

variable {cs : List Char}

theorem isTrimmed_of_forall (h : ∀ c ∈ cs, isBlank c = false) : IsTrimmed cs :=
  ⟨fun c hHead => h c (List.mem_of_mem_head? hHead), fun c hLast => h c (List.mem_of_getLast? hLast)⟩

theorem IsTrimmed.cons {c : Char} (hVisible : isBlank c = false) (h : IsTrimmed cs) :
    IsTrimmed (c :: cs) := by
  constructor
  · intro d hHead
    obtain rfl : c = d := by simpa using hHead
    exact hVisible
  · intro d hLast
    rw [List.getLast?_cons, Option.mem_def, Option.some.injEq] at hLast
    subst hLast
    cases hRest : cs.getLast? with
    | none => exact hVisible
    | some last => exact h.last last hRest

theorem isTrimmed_trimChars (cs : List Char) : IsTrimmed (trimChars cs) := by
  rw [trimChars, stripChars_eq]
  constructor
  · intro c hHead
    -- what the end loses does not change the beginning
    obtain ⟨lost, hLost⟩ := List.rdropWhile_prefix isBlank (cs.dropWhile isBlank)
    have hFirst : (cs.dropWhile isBlank).head? = some c := by
      rw [← hLost, List.head?_append, Option.mem_def.mp hHead, Option.some_or]
    have hNot := List.head?_dropWhile_not isBlank cs
    rwa [hFirst] at hNot
  · intro c hLast
    have hSome := List.ne_nil_of_mem (List.mem_of_getLast? hLast)
    rw [Option.mem_def, List.getLast?_eq_some_getLast hSome, Option.some.injEq] at hLast
    exact hLast ▸ Bool.eq_false_iff.mpr (List.rdropWhile_last_not isBlank _ hSome)

theorem trimChars_of_isTrimmed (h : IsTrimmed cs) : trimChars cs = cs :=
  stripChars_eq_self h.head h.last

theorem trimChars_eq_nil_iff : trimChars cs = [] ↔ cs.all isBlank = true := by
  rw [trimChars, stripChars_eq_nil_iff, List.all_eq_true]

theorem mem_of_mem_trimChars {c : Char} (h : c ∈ trimChars cs) : c ∈ cs := by
  rw [trimChars, stripChars_eq] at h
  exact (List.dropWhile_sublist isBlank).subset
    ((List.rdropWhile_prefix isBlank _).subset h)

/-- Trimming leaves nothing of a blank text, and something of any other that is not blank. -/
theorem isAllBlank_trim (s : String) : isAllBlank (trim s) = isAllBlank s := by
  have hTrimmed := trimChars_of_isTrimmed (isTrimmed_trimChars s.toList)
  rw [Bool.eq_iff_iff, isAllBlank, isAllBlank, toList_trim, ← trimChars_eq_nil_iff,
    ← trimChars_eq_nil_iff, hTrimmed]

/-! ## Splitting -/

section Split

variable {sep c : Char} {pieces : List (List Char)} {piece : List Char}

theorem splitChars_of_not_mem (h : sep ∉ cs) : splitChars sep cs = [cs] := by
  induction cs with
  | nil => rfl
  | cons c cs ih =>
    have hc : c ≠ sep := fun e => h (e ▸ List.mem_cons_self)
    rw [splitChars, if_neg hc, ih fun hm => h (List.mem_cons_of_mem c hm)]

/-- The first piece ends at the first separator. -/
theorem splitChars_append (h : sep ∉ cs) (rest : List Char) :
    splitChars sep (cs ++ sep :: rest) = cs :: splitChars sep rest := by
  rw [splitChars_append_cons, splitChars_of_not_mem h, List.singleton_append]

/-- **Pieces without separators** are split again when they are joined. -/
theorem splitChars_joinChars (hSome : pieces ≠ []) (h : ∀ piece ∈ pieces, sep ∉ piece) :
    splitChars sep (joinChars sep pieces) = pieces := by
  induction pieces with
  | nil => exact absurd rfl hSome
  | cons piece pieces ih =>
    obtain ⟨hHead, hTail⟩ := List.forall_mem_cons.mp h
    cases pieces with
    | nil => exact splitChars_of_not_mem hHead
    | cons next pieces =>
      rw [joinChars, splitChars_append hHead, ih (List.cons_ne_nil next pieces) hTail]

/-- A character that is no separator comes into the first piece. -/
theorem splitChars_cons_of_ne (h : c ≠ sep) (cs : List Char) :
    ∃ piece pieces, splitChars sep cs = piece :: pieces ∧
      splitChars sep (c :: cs) = (c :: piece) :: pieces := by
  obtain ⟨piece, pieces, hPieces⟩ := List.exists_cons_of_ne_nil (splitChars_ne_nil sep cs)
  refine ⟨piece, pieces, hPieces, ?_⟩
  rw [splitChars, if_neg h, hPieces]

/-- A character that is no separator comes into the last piece. -/
theorem splitChars_concat_of_ne (h : c ≠ sep) (cs : List Char) :
    ∃ pieces piece, splitChars sep cs = pieces ++ [piece] ∧
      splitChars sep (cs ++ [c]) = pieces ++ [piece ++ [c]] := by
  induction cs with
  | nil => exact ⟨[], [], rfl, splitChars_of_not_mem (by simpa using Ne.symm h)⟩
  | cons d cs ih =>
    obtain ⟨pieces, piece, hPieces, hConcat⟩ := ih
    by_cases hSep : d = sep
    · refine ⟨[] :: pieces, piece, ?_, ?_⟩
      · rw [splitChars, if_pos hSep, hPieces, List.cons_append]
      · rw [List.cons_append, splitChars, if_pos hSep, hConcat, List.cons_append]
    · -- the first piece may be the last one as well
      cases pieces with
      | nil =>
        refine ⟨[], d :: piece, ?_, ?_⟩
        · rw [splitChars, if_neg hSep, hPieces, List.nil_append, List.nil_append]
        · rw [List.cons_append, splitChars, if_neg hSep, hConcat, List.nil_append, List.nil_append,
            List.cons_append]
      | cons first pieces =>
        refine ⟨(d :: first) :: pieces, piece, ?_, ?_⟩
        · rw [splitChars, if_neg hSep, hPieces, List.cons_append, List.cons_append]
        · rw [List.cons_append, splitChars, if_neg hSep, hConcat, List.cons_append,
            List.cons_append]

theorem not_mem_of_mem_splitChars (h : piece ∈ splitChars sep cs) : sep ∉ piece := by
  induction cs generalizing piece with
  | nil =>
    obtain rfl := List.mem_singleton.mp h
    exact List.not_mem_nil
  | cons c cs ih =>
    by_cases hSep : c = sep
    · rw [splitChars, if_pos hSep] at h
      rcases List.mem_cons.mp h with rfl | h
      · exact List.not_mem_nil
      · exact ih h
    · obtain ⟨first, rest, hPieces, hCons⟩ := splitChars_cons_of_ne hSep cs
      rw [hPieces] at ih
      rw [hCons] at h
      rcases List.mem_cons.mp h with rfl | h
      · intro hMem
        rcases List.mem_cons.mp hMem with rfl | hMem
        · exact hSep rfl
        · exact ih List.mem_cons_self hMem
      · exact ih (List.mem_cons_of_mem first h)

theorem ne_of_isBlank (hSep : isBlank sep = false) (h : isBlank c = true) : c ≠ sep := by
  rintro rfl
  exact Bool.false_ne_true (hSep.symm.trans h)

/-- Blanks in front come into the first piece, which loses them when it is trimmed. -/
theorem map_trimChars_splitChars_dropWhile (hSep : isBlank sep = false) (cs : List Char) :
    (splitChars sep (cs.dropWhile isBlank)).map trimChars = (splitChars sep cs).map trimChars := by
  induction cs with
  | nil => rfl
  | cons c cs ih =>
    by_cases hBlank : isBlank c = true
    · obtain ⟨piece, pieces, hPieces, hCons⟩ := splitChars_cons_of_ne (ne_of_isBlank hSep hBlank) cs
      rw [List.dropWhile_cons_of_pos hBlank, ih, hPieces, hCons, List.map_cons, List.map_cons,
        trimChars, trimChars, stripChars_cons hBlank]
    · rw [List.dropWhile_cons_of_neg hBlank]

/-- Blanks at the end come into the last piece. -/
theorem map_trimChars_splitChars_rdropWhile (hSep : isBlank sep = false) (cs : List Char) :
    (splitChars sep (cs.rdropWhile isBlank)).map trimChars = (splitChars sep cs).map trimChars := by
  induction cs using List.reverseRecOn with
  | nil => rfl
  | append_singleton cs c ih =>
    rw [List.rdropWhile_concat]
    split
    · rename_i hBlank
      obtain ⟨pieces, piece, hPieces, hConcat⟩ :=
        splitChars_concat_of_ne (ne_of_isBlank hSep hBlank) cs
      rw [ih, hPieces, hConcat, List.map_append, List.map_append, List.map_singleton,
        List.map_singleton, trimChars, trimChars, stripChars_concat hBlank]
    · rfl

/-- **Trimming before splitting** makes no difference for pieces that are trimmed themselves. -/
theorem map_trimChars_splitChars (hSep : isBlank sep = false) (cs : List Char) :
    (splitChars sep (trimChars cs)).map trimChars = (splitChars sep cs).map trimChars := by
  rw [trimChars, stripChars_eq, map_trimChars_splitChars_rdropWhile hSep,
    map_trimChars_splitChars_dropWhile hSep]

/-- Each piece but the first has a separator before it. -/
theorem joinChars_cons (sep : Char) (piece : List Char) (pieces : List (List Char)) :
    joinChars sep (piece :: pieces) = piece ++ pieces.flatMap (sep :: ·) := by
  induction pieces generalizing piece with
  | nil => rw [joinChars, List.flatMap_nil, List.append_nil]
  | cons next pieces ih => rw [joinChars, ih, List.flatMap_cons, List.cons_append]

theorem toList_intercalate {sep : Char} {mark : String} (hMark : mark.toList = [sep])
    (ss : List String) :
    (mark.intercalate ss).toList = joinChars sep (ss.map String.toList) := by
  induction ss with
  | nil => rfl
  | cons s ss ih =>
    cases ss with
    | nil => simp [joinChars]
    | cons t ss =>
      rw [String.intercalate_cons_cons, String.toList_append, String.toList_append, ih, hMark]
      simp [joinChars]

/-- Texts without separators, joined by them, are split again. -/
theorem split_intercalate {sep : Char} {mark : String} (hMark : mark.toList = [sep])
    {ss : List String} (hSome : ss ≠ []) (h : ∀ s ∈ ss, sep ∉ s.toList) :
    split sep (mark.intercalate ss) = ss := by
  rw [split, toList_intercalate hMark, splitChars_joinChars]
  · simp [List.map_map, Function.comp_def]
  · simpa using hSome
  · intro piece hMem
    obtain ⟨s, hs, rfl⟩ := List.mem_map.mp hMem
    exact h s hs

/-- **The pieces of a text** are the texts without separators that make it up. -/
theorem split_eq_iff {sep : Char} {mark : String} (hMark : mark.toList = [sep]) {s : String}
    {ss : List String} :
    split sep s = ss ↔ ss ≠ [] ∧ (∀ t ∈ ss, sep ∉ t.toList) ∧ mark.intercalate ss = s := by
  constructor
  · rintro rfl
    refine ⟨by simpa [split] using splitChars_ne_nil sep s.toList, ?_, ?_⟩
    · intro t hMem
      obtain ⟨piece, hPiece, rfl⟩ := List.mem_map.mp hMem
      rw [String.toList_ofList]
      exact not_mem_of_mem_splitChars hPiece
    · rw [← String.toList_inj, toList_intercalate hMark, split, List.map_map]
      simpa [Function.comp_def] using joinChars_splitChars sep s.toList
  · rintro ⟨hSome, hNone, rfl⟩
    exact split_intercalate hMark hSome hNone

end Split

end Winnow.Text
