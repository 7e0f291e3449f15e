import Winnow.Proofs.Text.Digits
import Winnow.Proofs.Text.SnakeCase
import Mathlib.Data.List.Chain

/-!
# Winnow.Proofs.Text.CamelCase — snake case takes humps apart

A name is made of words (`Word`). With humps, each word but the first begins with a capital
(`camelCase`); in snake case there are underscores between the words instead (`underscored`). Whether
one comes before a hump depends on the character before it: always after a small letter or a digit;
after a capital, which is then a hump of its own, only if the hump goes on with a small letter
(`Word.opens`). A run over the humps carries this character along (`map_lowerChar_humps`).

* `snakeCase_camelCase_iff`: which names with humps give their words back, exactly.
* `snakeCase_undoes_camelCase`: those in which only the first and the last word may have one
  character do, and what they give is in snake case.
-/

namespace Winnow.Text

/-- A word of a name: a small letter of ASCII, then small letters and digits. -/
structure Word where
  first : Char
  rest : List Char
  isLower_first : first.isLower = true := by decide
  all_rest : rest.all isLowerOrDigit = true := by decide

namespace Word

/-- The characters of a word. -/
def chars (w : Word) : List Char := w.first :: w.rest

/-- A word as a text. -/
def text (w : Word) : String := String.ofList w.chars

/-- A word with a capital at its beginning. -/
def hump (w : Word) : List Char := w.first.toUpper :: w.rest

/-- The last character of the hump. -/
def humpEnd (w : Word) : Char := w.rest.getLast?.getD w.first.toUpper

/-- Does an underscore come before the hump, where `before` is the character before it? -/
def opens (before : Char) (w : Word) : Bool :=
  isLowerOrDigit before || (before.isUpper && w.rest.head?.any Char.isLower)

end Word

/-- The characters of words with humps: all but the first begin with a capital. -/
def camelChars : List Word → List Char
  | [] => []
  | w :: ws => w.chars ++ ws.flatMap Word.hump

/-- Words as one name with humps. -/
def camelCase (words : List Word) : String := String.ofList (camelChars words)

/-- Words as one name with underscores between them. -/
def underscored (words : List Word) : String := "_".intercalate (words.map Word.text)

/-- What becomes of the words whose humps follow the character `before`. -/
def snakeAfter (before : Char) : List Word → List Char
  | [] => []
  | w :: ws => (if w.opens before then ['_'] else []) ++ (w.chars ++ snakeAfter w.humpEnd ws)

/-! ## Characters -/

variable {before c : Char} {cs : List Char}

theorem isLowerOrDigit_iff : isLowerOrDigit c = true ↔
    (97 ≤ c.toNat ∧ c.toNat ≤ 122) ∨ (48 ≤ c.toNat ∧ c.toNat ≤ 57) := by
  rw [isLowerOrDigit, Bool.or_eq_true, isLower_iff, isDigit_iff]

theorem isUpper_of_isLowerOrDigit (h : isLowerOrDigit c = true) : c.isUpper = false := by
  rw [Bool.eq_false_iff, Ne, isUpper_iff]
  rw [isLowerOrDigit_iff] at h
  omega

theorem toNat_toUpper (h : c.isLower = true) : c.toUpper.toNat = c.toNat - 32 := by
  obtain ⟨hLow, hHigh⟩ := isLower_iff.mp h
  have hLetter : 'a'.val ≤ c.val ∧ c.val ≤ 'z'.val :=
    ⟨UInt32.le_iff_toNat_le.mpr hLow, UInt32.le_iff_toNat_le.mpr hHigh⟩
  have hShift : ('A'.val - 'a'.val).toNat = 2 ^ 32 - 32 := by decide
  delta Char.toUpper
  rw [dif_pos hLetter]
  show (c.val + ('A'.val - 'a'.val)).toNat = c.toNat - 32
  rw [UInt32.toNat_add, hShift]
  show (c.toNat + (2 ^ 32 - 32)) % 2 ^ 32 = c.toNat - 32
  omega

theorem isUpper_toUpper (h : c.isLower = true) : c.toUpper.isUpper = true := by
  have hLower := isLower_iff.mp h
  rw [isUpper_iff, toNat_toUpper h]
  omega

/-- The capital of a small letter has it as its small letter. -/
theorem lowerChar_toUpper (h : c.isLower = true) : lowerChar c.toUpper = c := by
  have hUpper := isUpper_toUpper h
  have hLower := isLower_iff.mp h
  have hAscii : c.toUpper.toNat < 0x80 := by
    rw [toNat_toUpper h]
    omega
  rw [lowerChar, if_pos hAscii, if_pos hUpper, toNat_toUpper h, Nat.sub_add_cancel (by omega),
    Char.ofNat_toNat]

/-- Is the character one of ASCII that can be seen? -/
def IsVisibleAscii (c : Char) : Prop := 32 < c.toNat ∧ c.toNat < 127

theorem IsVisibleAscii.isBlank_eq_false (h : IsVisibleAscii c) : isBlank c = false := by
  obtain ⟨hLow, hHigh⟩ := h
  simp only [isBlank, Bool.or_eq_false_iff, Bool.and_eq_false_iff, decide_eq_false_iff_not,
    beq_eq_false_iff_ne]
  omega

theorem isVisibleAscii_of_isLowerOrDigit (h : isLowerOrDigit c = true) : IsVisibleAscii c := by
  rw [isLowerOrDigit_iff] at h
  rw [IsVisibleAscii]
  omega

theorem isVisibleAscii_of_isUpper (h : c.isUpper = true) : IsVisibleAscii c := by
  rw [isUpper_iff] at h
  rw [IsVisibleAscii]
  omega

theorem map_lowerChar_of_isLowerOrDigit (h : ∀ c ∈ cs, isLowerOrDigit c = true) :
    cs.map lowerChar = cs := by
  refine (List.map_congr_left fun c hMem => ?_).trans (List.map_id' cs)
  obtain ⟨-, hAscii⟩ := isVisibleAscii_of_isLowerOrDigit (h c hMem)
  exact (isSmall_of_ascii (by omega) (isUpper_of_isLowerOrDigit (h c hMem))).lowerChar_eq

/-- In visible ASCII words are marked and each character is lower-cased by itself. -/
theorem snakeChars_of_isVisibleAscii (h : ∀ c ∈ cs, IsVisibleAscii c) :
    snakeChars cs = (markWords none cs).map lowerChar := by
  rw [snakeChars, trimChars, stripChars_of_forall fun c hMem => (h c hMem).isBlank_eq_false]
  refine lowerAfter_eq_map fun c hMem => ?_
  have hAscii : c.toNat < 127 := by
    rcases mem_of_mem_markWords hMem with rfl | hMem
    · decide
    · exact (h c hMem).2
  constructor
  · rintro rfl
    exact absurd hAscii (by decide)
  · rintro rfl
    exact absurd hAscii (by decide)

/-! ## Words -/

namespace Word

variable (w next : Word)

theorem isLowerOrDigit_rest : ∀ c ∈ w.rest, isLowerOrDigit c = true :=
  List.all_eq_true.mp w.all_rest

theorem isLowerOrDigit_of_mem {w : Word} (h : c ∈ w.chars) : isLowerOrDigit c = true := by
  rcases List.mem_cons.mp h with rfl | h
  · rw [isLowerOrDigit, w.isLower_first, Bool.true_or]
  · exact w.isLowerOrDigit_rest c h

theorem isUpper_of_mem_rest : ∀ c ∈ w.rest, c.isUpper = false :=
  fun c hMem => isUpper_of_isLowerOrDigit (w.isLowerOrDigit_rest c hMem)

theorem map_lowerChar_hump : w.hump.map lowerChar = w.chars := by
  rw [hump, List.map_cons, lowerChar_toUpper w.isLower_first,
    map_lowerChar_of_isLowerOrDigit w.isLowerOrDigit_rest, chars]

theorem isVisibleAscii_of_mem_hump {w : Word} (h : c ∈ w.hump) : IsVisibleAscii c := by
  rcases List.mem_cons.mp h with rfl | h
  · exact isVisibleAscii_of_isUpper (isUpper_toUpper w.isLower_first)
  · exact isVisibleAscii_of_isLowerOrDigit (w.isLowerOrDigit_rest c h)

/-- **Two humps in a row.** The second one is told from the first unless the first is a capital only
and the second has no small letter after its capital. -/
theorem opens_humpEnd_iff : next.opens w.humpEnd = true ↔
    w.rest ≠ [] ∨ ∃ c ∈ next.rest.head?, c.isLower = true := by
  rw [opens, humpEnd]
  cases hLast : w.rest.getLast? with
  | none =>
    have hUpper := isUpper_toUpper w.isLower_first
    have hSmall : isLowerOrDigit w.first.toUpper = false := by
      rw [Bool.eq_false_iff]
      intro h
      exact Bool.false_ne_true ((isUpper_of_isLowerOrDigit h).symm.trans hUpper)
    simp [hSmall, hUpper, List.getLast?_eq_none_iff.mp hLast, Option.any_eq_true]
  | some last =>
    have hMem := List.mem_of_getLast? hLast
    simp [w.isLowerOrDigit_rest last hMem, List.ne_nil_of_mem hMem]

end Word

/-! ## Humps -/

variable {w : Word} {ws : List Word}

/-- Humps begin with capitals. -/
theorem isLower_of_mem_head?_humps (h : c ∈ (ws.flatMap Word.hump).head?) : c.isLower = false := by
  cases ws with
  | nil => cases h
  | cons w ws =>
    obtain rfl : w.first.toUpper = c := by simpa [Word.hump] using h
    have hUpper := isUpper_iff.mp (isUpper_toUpper w.isLower_first)
    rw [Bool.eq_false_iff, Ne, isLower_iff]
    omega

/-- **One hump**: what decides about the underscore before it. -/
theorem beginsWord_hump (before : Char) (w : Word) (ws : List Word) :
    beginsWord before w.first.toUpper (w.rest ++ ws.flatMap Word.hump) = w.opens before := by
  have hAhead : (w.rest ++ ws.flatMap Word.hump).head?.any Char.isLower =
      w.rest.head?.any Char.isLower := by
    cases w.rest with
    | cons c cs => rfl
    | nil =>
      -- only the next hump can follow, and it begins with a capital
      rw [List.nil_append, List.head?_nil, Option.any_none]
      cases hHead : (ws.flatMap Word.hump).head? with
      | none => rfl
      | some c => exact isLower_of_mem_head?_humps hHead
  rw [beginsWord, isUpper_toUpper w.isLower_first, Bool.true_and, hAhead, Word.opens]

/-- **All humps**, from the character before the first of them. -/
theorem map_lowerChar_humps (before : Char) (ws : List Word) :
    (markWords (some before) (ws.flatMap Word.hump)).map lowerChar = snakeAfter before ws := by
  induction ws generalizing before with
  | nil => rfl
  | cons w ws ih =>
    have hRest : (w.first.toUpper ::
        markWords (some w.first.toUpper) (w.rest ++ ws.flatMap Word.hump)).map lowerChar =
          w.chars ++ snakeAfter w.humpEnd ws := by
      rw [markWords_append w.isUpper_of_mem_rest, Option.or_some, ← Word.humpEnd, ← List.cons_append,
        ← Word.hump, List.map_append, w.map_lowerChar_hump, ih]
    rw [List.flatMap_cons, Word.hump, List.cons_append, markWords, Option.any_some,
      beginsWord_hump, snakeAfter]
    cases w.opens before with
    | true => rw [if_pos rfl, if_pos rfl, List.map_cons, hRest]; rfl
    | false => rw [if_neg Bool.false_ne_true, if_neg Bool.false_ne_true, hRest, List.nil_append]

theorem isVisibleAscii_of_mem_camelChars {words : List Word} (h : c ∈ camelChars words) :
    IsVisibleAscii c := by
  cases words with
  | nil => cases h
  | cons w ws =>
    rcases List.mem_append.mp h with h | h
    · exact isVisibleAscii_of_isLowerOrDigit (Word.isLowerOrDigit_of_mem h)
    · obtain ⟨next, -, hMem⟩ := List.mem_flatMap.mp h
      exact Word.isVisibleAscii_of_mem_hump hMem

theorem snakeChars_camelChars_cons (w : Word) (ws : List Word) :
    snakeChars (camelChars (w :: ws)) =
      w.chars ++ snakeAfter (w.rest.getLast?.getD w.first) ws := by
  have hSmall : ∀ c ∈ w.chars, isLowerOrDigit c = true := fun _ => Word.isLowerOrDigit_of_mem
  rw [snakeChars_of_isVisibleAscii fun _ => isVisibleAscii_of_mem_camelChars, camelChars,
    markWords_append fun c hMem => isUpper_of_isLowerOrDigit (hSmall c hMem), Option.or_none,
    Word.chars, List.getLast?_cons, List.map_append, map_lowerChar_humps, ← Word.chars,
    map_lowerChar_of_isLowerOrDigit hSmall]

/-! ## Underscores -/

/-- The words come out one by one if an underscore has come before each. -/
theorem snakeAfter_eq_iff : snakeAfter before ws = ws.flatMap (fun w => '_' :: w.chars) ↔
    (∀ w ∈ ws.head?, w.opens before = true) ∧
      ws.IsChain fun w next => next.opens w.humpEnd = true := by
  induction ws generalizing before with
  | nil => simp [snakeAfter]
  | cons w ws ih =>
    have hHead : (∀ v ∈ (w :: ws).head?, v.opens before = true) ↔ w.opens before = true := by simp
    rw [snakeAfter, List.flatMap_cons, hHead, List.isChain_cons, ← ih]
    cases w.opens before with
    | true => simp
    | false =>
      -- a word begins with its letter, never with an underscore
      have hFirst : w.first ≠ '_' := by
        intro h
        exact absurd (h ▸ w.isLower_first) (by decide)
      simp [Word.chars, hFirst]

theorem toList_underscored (words : List Word) :
    (underscored words).toList = joinChars '_' (words.map Word.chars) := by
  have hMark : "_".toList = ['_'] := rfl
  have hText : String.toList ∘ Word.text = Word.chars := by
    funext w
    exact String.toList_ofList
  rw [underscored, toList_intercalate hMark, List.map_map, hText]

theorem mem_underscored {words : List Word} (h : c ∈ (underscored words).toList) :
    c = '_' ∨ isLowerOrDigit c = true := by
  rw [toList_underscored] at h
  cases words with
  | nil => cases h
  | cons w ws =>
    rw [List.map_cons, joinChars_cons, List.flatMap_map, List.mem_append, List.mem_flatMap] at h
    rcases h with h | ⟨next, -, h⟩
    · exact .inr (Word.isLowerOrDigit_of_mem h)
    · exact (List.mem_cons.mp h).imp_right Word.isLowerOrDigit_of_mem

/-- Names of words with underscores between them are in snake case. -/
theorem snakeCase_underscored (words : List Word) :
    snakeCase (underscored words) = underscored words := by
  have hChar {c : Char} (h : c ∈ (underscored words).toList) :
      IsVisibleAscii c ∧ c.isUpper = false := by
    rcases mem_underscored h with rfl | h
    · exact ⟨⟨by decide, by decide⟩, by decide⟩
    · exact ⟨isVisibleAscii_of_isLowerOrDigit h, isUpper_of_isLowerOrDigit h⟩
  have hTrimmed := isTrimmed_of_forall fun c hMem => (hChar hMem).1.isBlank_eq_false
  rw [snakeCase, snakeChars_of_isSmall hTrimmed fun c hMem => ?_, String.ofList_toList]
  obtain ⟨⟨-, hAscii⟩, hUpper⟩ := hChar hMem
  exact isSmall_of_ascii (by omega) hUpper

/-- **Which names with humps give their words back**: those in which each word between the first and
the last has more than its letter, or the word after it goes on with a small letter. -/
theorem snakeCase_camelCase_iff (words : List Word) :
    snakeCase (camelCase words) = underscored words ↔
      words.tail.IsChain fun w next =>
        w.rest ≠ [] ∨ ∃ c ∈ next.rest.head?, c.isLower = true := by
  rw [← String.toList_inj, snakeCase, camelCase, String.toList_ofList, String.toList_ofList,
    toList_underscored]
  cases words with
  | nil => exact iff_of_true rfl List.isChain_nil
  | cons w ws =>
    have hEnd : isLowerOrDigit (w.rest.getLast?.getD w.first) = true := by
      refine Word.isLowerOrDigit_of_mem (w := w) (List.mem_of_getLast? ?_)
      rw [Word.chars, List.getLast?_cons]
    have hFirst : ∀ v ∈ ws.head?, v.opens (w.rest.getLast?.getD w.first) = true := by
      intro v _
      rw [Word.opens, hEnd, Bool.true_or]
    rw [snakeChars_camelChars_cons, List.map_cons, joinChars_cons, List.append_cancel_left_eq,
      List.flatMap_map, snakeAfter_eq_iff, and_iff_right hFirst, List.tail_cons]
    simp only [Word.opens_humpEnd_iff]

example : snakeCase "planBCost" = "plan_b_cost" ∧ snakeCase "planBC2" = "plan_bc2" := by
  decide

/-- **Names with humps come apart.** Let every word other than the first and the last have at least
two characters. Then the snake-case form of the name with humps is these words with single
underscores between them, and this is its own snake-case form. -/
theorem snakeCase_undoes_camelCase (words : List Word)
    (h : ∀ w ∈ words.tail.dropLast, 2 ≤ w.text.length) :
    snakeCase (camelCase words) = underscored words ∧
      snakeCase (underscored words) = underscored words := by
  refine ⟨(snakeCase_camelCase_iff words).mpr ?_, snakeCase_underscored words⟩
  rw [List.isChain_iff_forall_rel_of_append_cons_cons]
  intro w next before after hSplit
  -- a word with another after it is not the last
  have hMem : w ∈ words.tail.dropLast := by
    rw [hSplit, List.dropLast_append_of_ne_nil (List.cons_ne_nil w _), List.dropLast_cons_cons]
    exact List.mem_append_right before List.mem_cons_self
  refine .inl fun hSingle => ?_
  have hLength : w.text.length = 1 := by
    rw [Word.text, String.length_ofList, Word.chars, hSingle, List.length_singleton]
  have hTwo := h w hMem
  omega

/-- Three words: the first and the last have one letter, the one between them ends in a digit. -/
def offsetWords : List Word :=
  [{ first := 'x', rest := [] }, { first := 'o', rest := "ffset2".toList },
    { first := 'y', rest := [] }]

theorem snakeCase_undoes_camelCase_offset :
    (∀ w ∈ offsetWords.tail.dropLast, 2 ≤ w.text.length) ∧
      camelCase offsetWords = "xOffset2Y" ∧ underscored offsetWords = "x_offset2_y" ∧
      snakeCase "xOffset2Y" = "x_offset2_y" ∧ snakeCase "x_offset2_y" = "x_offset2_y" := by
  have hLong : ∀ w ∈ offsetWords.tail.dropLast, 2 ≤ w.text.length := by decide
  have hCamel : camelCase offsetWords = "xOffset2Y" := by decide
  have hUnderscored : underscored offsetWords = "x_offset2_y" := by decide
  obtain ⟨hSnake, hAgain⟩ := snakeCase_undoes_camelCase offsetWords hLong
  rw [hCamel, hUnderscored] at hSnake
  rw [hUnderscored] at hAgain
  exact ⟨hLong, hCamel, hUnderscored, hSnake, hAgain⟩

end Winnow.Text
