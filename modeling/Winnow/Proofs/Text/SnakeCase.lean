import Winnow.Proofs.Text.Case
import Winnow.Text.SnakeCase

/-!
# Winnow.Proofs.Text.SnakeCase — snake case is final

The snake-case form of a text is trimmed (`isTrimmed_snakeChars`) and lower-cased, so that no hump is
left in it: it is its own snake-case form (`snakeCase_snakeCase`). Only blanks make it empty
(`snakeCase_eq_empty_iff`), and of all marks only underscores are added (`mem_of_mem_snakeChars`).
-/

namespace Winnow.Text

variable {before? : Option Char} {c d : Char} {cs : List Char}

/-! ## Humps -/

/-- No word begins where there is no capital; the last character stands before what follows. -/
theorem markWords_append (h : ∀ c ∈ cs, c.isUpper = false) (rest : List Char) :
    markWords before? (cs ++ rest) = cs ++ markWords (cs.getLast?.or before?) rest := by
  induction cs generalizing before? with
  | nil => rfl
  | cons c cs ih =>
    obtain ⟨hHead, hRest⟩ := List.forall_mem_cons.mp h
    have hNone : (before?.any fun b => beginsWord b c (cs ++ rest)) = false := by
      cases before? with
      | none => rfl
      | some b => rw [Option.any_some, beginsWord, hHead, Bool.false_and]
    have hLast : cs.getLast?.or (some c) = (c :: cs).getLast?.or before? := by
      rw [List.getLast?_cons, Option.or_some, Option.some_or]
    rw [List.cons_append, markWords, hNone, if_neg Bool.false_ne_true, ih hRest, hLast,
      List.cons_append]

theorem markWords_of_isUpper (h : ∀ c ∈ cs, c.isUpper = false) : markWords before? cs = cs := by
  have hAll : markWords before? (cs ++ []) = cs ++ [] := markWords_append h []
  rwa [List.append_nil] at hAll

/-- Only underscores are put in. -/
theorem mem_of_mem_markWords (h : d ∈ markWords before? cs) : d = '_' ∨ d ∈ cs := by
  induction cs generalizing before? with
  | nil => cases h
  | cons c cs ih =>
    have hRest (h : d ∈ c :: markWords (some c) cs) : d = '_' ∨ d ∈ c :: cs := by
      rcases List.mem_cons.mp h with rfl | h
      · exact .inr List.mem_cons_self
      · exact (ih h).imp_right (List.mem_cons_of_mem c)
    rw [markWords] at h
    split at h
    · exact (List.mem_cons.mp h).elim .inl hRest
    · exact hRest h

/-- The last character stays the last and, where nothing stands before, the first the first. -/
theorem getLast?_markWords (before? : Option Char) (cs : List Char) :
    (markWords before? cs).getLast? = cs.getLast? := by
  induction cs generalizing before? with
  | nil => rfl
  | cons c cs ih =>
    have hRest : (c :: markWords (some c) cs).getLast? = (c :: cs).getLast? := by
      rw [List.getLast?_cons, List.getLast?_cons, ih]
    rw [markWords]
    split
    · rw [List.getLast?_cons, hRest, List.getLast?_cons, Option.getD_some]
    · exact hRest

theorem head?_markWords (cs : List Char) : (markWords none cs).head? = cs.head? := by
  cases cs with
  | nil => rfl
  | cons c cs => simp [markWords]

/-! ## Snake case -/

/-- **Snake-case forms are trimmed.** -/
theorem isTrimmed_snakeChars (cs : List Char) : IsTrimmed (snakeChars cs) := by
  have hTrimmed := isTrimmed_trimChars cs
  refine isTrimmed_lowerChars ⟨?_, ?_⟩
  · rw [head?_markWords]
    exact hTrimmed.head
  · rw [getLast?_markWords]
    exact hTrimmed.last

/-- Trimming comes first, and once is enough. -/
theorem snakeChars_trimChars (cs : List Char) : snakeChars (trimChars cs) = snakeChars cs := by
  rw [snakeChars, trimChars_of_isTrimmed (isTrimmed_trimChars cs), snakeChars]

/-- Trimmed texts of small characters are in snake case. -/
theorem snakeChars_of_isSmall (hTrimmed : IsTrimmed cs) (hSmall : ∀ c ∈ cs, IsSmall c) :
    snakeChars cs = cs := by
  rw [snakeChars, trimChars_of_isTrimmed hTrimmed,
    markWords_of_isUpper fun c hMem => isUpper_of_isSmall (hSmall c hMem)]
  exact lowerAfter_of_isSmall hSmall

theorem snakeChars_snakeChars (cs : List Char) : snakeChars (snakeChars cs) = snakeChars cs :=
  snakeChars_of_isSmall (isTrimmed_snakeChars cs) fun _ => isSmall_of_mem_lowerChars

/-- **Snake case is final**: a snake-case form is its own. -/
theorem snakeCase_snakeCase (s : String) : snakeCase (snakeCase s) = snakeCase s := by
  rw [snakeCase, snakeCase, String.toList_ofList, snakeChars_snakeChars]

theorem snakeChars_eq_nil_iff : snakeChars cs = [] ↔ cs.all isBlank = true := by
  have hMarked (cs : List Char) : markWords none cs = [] ↔ cs = [] := by
    rw [← List.head?_eq_none_iff, head?_markWords, List.head?_eq_none_iff]
  rw [snakeChars, lowerChars, lowerAfter_eq_nil_iff, hMarked, trimChars_eq_nil_iff]

/-- Only blanks have an empty form. -/
theorem snakeCase_eq_empty_iff {s : String} : snakeCase s = "" ↔ isAllBlank s = true := by
  rw [isAllBlank, ← snakeChars_eq_nil_iff, snakeCase]
  exact ⟨fun h => by simpa using congrArg String.toList h, fun h => by rw [h]⟩

/-- A mark of ASCII in the form has been in the text, unless it is an underscore. -/
theorem mem_of_mem_snakeChars (hAscii : c.toNat < 0x80) (hLower : c.isLower = false) (hMark : c ≠ '_')
    (h : c ∈ snakeChars cs) : c ∈ cs := by
  obtain ⟨d, hMem, hLowered⟩ := exists_of_mem_lowerAfter h
  obtain rfl := hLowered.mark hAscii hLower
  exact mem_of_mem_trimChars ((mem_of_mem_markWords hMem).resolve_left hMark)

/-- Such a mark at the beginning of the form has been there, and this time no underscore is put in. -/
theorem head?_of_head?_snakeChars (hAscii : c.toNat < 0x80) (hLower : c.isLower = false)
    (h : (snakeChars cs).head? = some c) : (trimChars cs).head? = some c := by
  rw [snakeChars, lowerChars] at h
  rw [← head?_markWords]
  cases hMarked : markWords none (trimChars cs) with
  | nil =>
    rw [hMarked] at h
    cases h
  | cons d ds =>
    obtain ⟨here, hSome, hHere, hStep⟩ := exists_lowerAfter_cons [] d ds
    rw [hMarked, hStep, List.head?_append_of_ne_nil here hSome] at h
    have hLowered := hHere c (List.mem_of_mem_head? h)
    rw [hLowered.mark hAscii hLower, List.head?_cons]

end Winnow.Text
