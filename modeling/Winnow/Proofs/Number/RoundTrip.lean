import Winnow.Number.Decimal
import Winnow.Proofs.Text.Digits

/-!
# Winnow.Proofs.Number.RoundTrip — written numbers are read back

Main statements: an integer of at most 4300 digits is read back from its text (`readInt?_intText`),
and a finite decimal within the limits of the exponent from its own, with its sign, its digits and
its exponent, whether it is written plainly or with an exponent (`Decimal.read?_text`).

A numeral is taken apart as it is built: the sign, the digits before and after the point, the
exponent. One lemma says what the reader of numerals makes of such a text (`readReal?_whole` without
a point, `readReal?_point` with one).
-/

namespace Winnow.Number

open Winnow.Text

/-! ## Characters of numerals -/

/-- Does the character occur in written numbers? -/
def IsNumeral (c : Char) : Prop := c.isDigit ∨ c ∈ ['.', 'E', '+', '-']

theorem IsNumeral.cases {motive : Char → Prop} (digit : ∀ d < 10, motive (Nat.digitChar d))
    (mark : motive '.' ∧ motive 'E' ∧ motive '+' ∧ motive '-') {c : Char} (h : IsNumeral c) :
    motive c := by
  refine h.elim (isDigit_cases digit) fun h => ?_
  obtain ⟨point, exponent, plus, minus⟩ := mark
  simp only [List.mem_cons, List.not_mem_nil, or_false] at h
  rcases h with rfl | rfl | rfl | rfl <;> assumption

/-- A reader of numbers passes over none of the characters of numerals and changes none. -/
theorem IsNumeral.isBlank_eq_false {c : Char} (h : IsNumeral c) : isBlank c = false :=
  h.cases (motive := fun c => isBlank c = false) (by decide) (by decide)

theorem IsNumeral.isSkipped_eq_false {c : Char} (h : IsNumeral c) : isSkipped c = false :=
  h.cases (motive := fun c => isSkipped c = false) (by decide) (by decide)

theorem IsNumeral.ne_underscore {c : Char} (h : IsNumeral c) : (c != '_') = true :=
  h.cases (motive := fun c => (c != '_') = true) (by decide) (by decide)

theorem IsNumeral.plainDigit_eq {c : Char} (h : IsNumeral c) : plainDigit c = c :=
  h.cases (motive := fun c => plainDigit c = c) (by decide) (by decide)

theorem isNumeral_of_isDigit {c : Char} (h : c.isDigit) : IsNumeral c := .inl h

/-! ## Signs -/

/-- A minus sign, or nothing. -/
def signChars (negative : Bool) : List Char := if negative then ['-'] else []

theorem isNumeral_of_mem_signChars {negative : Bool} {c : Char} (h : c ∈ signChars negative) :
    IsNumeral c := by
  cases negative
  · simp [signChars] at h
  · exact .inr (by simp_all [signChars])

/-- A sign before a digit is taken off. -/
theorem takeSign_signChars {negative : Bool} {body : List Char} (h : ∀ c ∈ body.head?, c.isDigit) :
    takeSign (signChars negative ++ body) = (negative, body) := by
  cases negative with
  | true => rfl
  | false =>
    cases body with
    | nil => rfl
    | cons c body =>
      have hc : c.isDigit := h c rfl
      have hMarks : c ≠ '-' ∧ c ≠ '+' :=
        isDigit_cases (motive := fun c => c ≠ '-' ∧ c ≠ '+') (by decide) hc
      simp [signChars, takeSign, hMarks.1, hMarks.2]

/-! ## Integers -/

theorem toList_intText (n : Int) :
    (intText n).toList = signChars (n < 0) ++ natChars n.natAbs := by
  rw [intText, Int.toString_eq_repr, Int.repr_eq_if]
  by_cases h : 0 ≤ n
  · have : n.toNat = n.natAbs := by omega
    simp [h, this, signChars, natChars, Int.not_lt.mpr h]
  · have : (-n).toNat = n.natAbs := by omega
    simp [h, this, signChars, natChars, Int.not_le.mp h]

theorem isNumeral_of_mem_intText {n : Int} {c : Char} (h : c ∈ (intText n).toList) :
    IsNumeral c := by
  rw [toList_intText, List.mem_append] at h
  exact h.elim isNumeral_of_mem_signChars fun h => .inl (isDigit_of_mem_natChars h)

/-- An integer is its magnitude with its sign. -/
theorem signed_natAbs (n : Int) :
    (if decide (n < 0) = true then -(n.natAbs : Int) else n.natAbs) = n := by
  by_cases h : n < 0
  · rw [if_pos (decide_eq_true h)]
    omega
  · rw [if_neg (by simpa using h)]
    omega

/-- **Integers are read back.** An integer of at most 4300 digits is what its text spells. -/
theorem readInt?_intText {n : Int} (h : (natChars n.natAbs).length ≤ maxDigits) :
    readInt? (intText n).toList = some n := by
  have hDigits : ∀ c ∈ natChars n.natAbs, c.isDigit := fun c hc => isDigit_of_mem_natChars hc
  have hSkip : skipBlanks (intText n).toList = (intText n).toList :=
    stripChars_of_forall fun c hc => (isNumeral_of_mem_intText hc).isSkipped_eq_false
  have hFilter : (natChars n.natAbs).filter (· != '_') = natChars n.natAbs :=
    List.filter_eq_self.mpr fun c hc => (isNumeral_of_isDigit (hDigits c hc)).ne_underscore
  have hSign : takeSign (signChars (n < 0) ++ natChars n.natAbs)
      = (decide (n < 0), natChars n.natAbs) :=
    takeSign_signChars fun c hc => hDigits c (List.mem_of_mem_head? hc)
  simp only [readInt?, hSkip]
  rw [toList_intText, hSign]
  simp only [hFilter]
  rw [if_neg (by omega), readGrouped_digits hDigits (natChars_ne_nil _), digitsValue_natChars]
  exact congrArg some (signed_natAbs n)

/-- An integer of 64 bits has fewer digits than a reader of integers takes. -/
theorem length_natChars_le_maxDigits {n : Nat} (h : n < 2 ^ 63) :
    (natChars n).length ≤ maxDigits := by
  have hShort : (natChars n).length ≤ 19 := by
    apply (Nat.length_toDigits_le_iff (by decide) (by decide)).mpr
    omega
  have hMax : 19 ≤ maxDigits := by decide
  omega

/-! ## Numerals -/

/-- A character that ends a run of digits and is no point. -/
def endsDigits (cs : List Char) : Prop := ∀ c ∈ cs.head?, c.isDigit = false ∧ c ≠ '.'

/-- A numeral without a point: its digits, and the exponent that is written. -/
theorem readReal?_whole {negative : Bool} {whole tail : List Char} (hDigits : ∀ c ∈ whole, c.isDigit)
    (hne : whole ≠ []) (ht : endsDigits tail) :
    readReal? negative (whole ++ tail) =
      (readExponent? tail).map fun e => ⟨negative, digitsValue whole, e⟩ := by
  have hStop : ∀ c ∈ tail.head?, c.isDigit = false := fun c hc => (ht c hc).1
  simp only [readReal?, takeWhile_append_stop hDigits hStop, dropWhile_append_stop hDigits hStop]
  cases tail with
  | nil => simp [hne]
  | cons c rest =>
    have hc : c ≠ '.' := (ht c rfl).2
    simp [hne, hc]

/-- A numeral with a point: the digits on both sides are read as one number, whose last digit the
exponent counts from. -/
theorem readReal?_point {negative : Bool} {whole fraction tail : List Char}
    (hDigits : ∀ c ∈ whole, c.isDigit) (hMore : ∀ c ∈ fraction, c.isDigit) (hne : whole ≠ [])
    (ht : endsDigits tail) :
    readReal? negative (whole ++ '.' :: (fraction ++ tail)) =
      (readExponent? tail).map fun e =>
        ⟨negative, digitsValue (whole ++ fraction), e - fraction.length⟩ := by
  have hStop : ∀ c ∈ tail.head?, c.isDigit = false := fun c hc => (ht c hc).1
  have hPoint : ∀ c ∈ ('.' :: (fraction ++ tail)).head?, c.isDigit = false := by
    rintro c ⟨⟩
    decide
  simp only [readReal?, takeWhile_append_stop hDigits hPoint, dropWhile_append_stop hDigits hPoint,
    takeWhile_append_stop hMore hStop, dropWhile_append_stop hMore hStop]
  simp [hne]

/-- An exponent with its sign. -/
def exponentChars (e : Int) : List Char :=
  'E' :: (if e < 0 then '-' else '+') :: natChars e.natAbs

theorem readExponent?_exponentChars (e : Int) : readExponent? (exponentChars e) = some e := by
  have hDigits : (natChars e.natAbs).all Char.isDigit :=
    List.all_eq_true.mpr fun c hc => isDigit_of_mem_natChars hc
  have hne : (natChars e.natAbs).isEmpty = false := by
    simpa using natChars_ne_nil e.natAbs
  have hSign : takeSign ((if e < 0 then '-' else '+') :: natChars e.natAbs) =
      (decide (e < 0), natChars e.natAbs) := by
    by_cases h : e < 0 <;> simp [takeSign, h]
  rw [exponentChars, readExponent?, if_pos (by decide), hSign]
  dsimp only
  rw [if_neg (by simp [hDigits, hne]), digitsValue_natChars, signed_natAbs]

theorem endsDigits_exponentChars (e : Int) : endsDigits (exponentChars e) := by
  rintro c ⟨⟩
  decide

end Winnow.Number

namespace Winnow.Decimal

open Winnow.Number
open Winnow.Text

/-! ## Decimals -/

/-- The plain form: digits, and a point among them if the exponent is negative. -/
theorem readReal?_plain {negative : Bool} {coefficient : Nat} {exponent : Int} (h : exponent ≤ 0)
    (hLead : -6 ≤ exponent + (natChars coefficient).length - 1) :
    readReal? negative (finiteChars coefficient exponent) =
      some ⟨negative, coefficient, exponent⟩ := by
  have hDigits : ∀ c ∈ natChars coefficient, c.isDigit := fun c hc => isDigit_of_mem_natChars hc
  by_cases h0 : exponent = 0
  · have hnil : readReal? negative (natChars coefficient ++ []) = (readExponent? []).map fun e =>
        ⟨negative, digitsValue (natChars coefficient), e⟩ :=
      readReal?_whole hDigits (natChars_ne_nil _) (by simp [endsDigits])
    simp only [List.append_nil] at hnil
    simp [finiteChars, h0, show (-6 : Int) ≤ (natChars coefficient).length - 1 by omega, hnil,
      readExponent?, digitsValue_natChars]
  · -- The point splits the padded digits, of which at least one stands before it.
    obtain ⟨places, hp⟩ : ∃ places : Nat, places = (-exponent).toNat := ⟨_, rfl⟩
    obtain ⟨cs, hcs⟩ : ∃ cs, cs = List.replicate (places + 1 - (natChars coefficient).length) '0' ++
      natChars coefficient := ⟨_, rfl⟩
    have hlen : places + 1 ≤ cs.length := by simp [hcs]; omega
    have hPadded : ∀ c ∈ cs, c.isDigit := by
      intro c hc
      rw [hcs, List.mem_append] at hc
      rcases hc with hc | hc
      · rw [List.eq_of_mem_replicate hc]; decide
      · exact hDigits c hc
    have hValue : digitsValue cs = coefficient := by
      rw [hcs, digitsValue_replicate_append, digitsValue_natChars]
    obtain ⟨whole, hWhole⟩ : ∃ whole, whole = cs.take (cs.length - places) := ⟨_, rfl⟩
    obtain ⟨fraction, hFraction⟩ : ∃ fraction, fraction = cs.drop (cs.length - places) := ⟨_, rfl⟩
    have hSplit : whole ++ fraction = cs := by rw [hWhole, hFraction, List.take_append_drop]
    have hRead : readReal? negative (whole ++ '.' :: (fraction ++ [])) =
        (readExponent? []).map fun e =>
          ⟨negative, digitsValue (whole ++ fraction), e - fraction.length⟩ :=
      readReal?_point (fun c hc => hPadded c (List.mem_of_mem_take (hWhole ▸ hc)))
        (fun c hc => hPadded c (List.mem_of_mem_drop (hFraction ▸ hc)))
        (List.ne_nil_of_length_pos (by rw [hWhole, List.length_take]; omega))
        (by simp [endsDigits])
    have hText : finiteChars coefficient exponent = whole ++ '.' :: (fraction ++ []) := by
      simp only [finiteChars, h, hLead, h0, decide_true, Bool.and_true, if_true, if_false, ← hp,
        ← hcs, ← hWhole, ← hFraction, List.append_nil]
    have hFrac : ((0 : Int) - fraction.length) = exponent := by
      rw [hFraction, List.length_drop]; omega
    rw [hText, hRead, hSplit, hValue]
    simp only [readExponent?, Option.map_some, hFrac]

/-- The form with an exponent: one digit before the point, the others after it. -/
theorem readReal?_scientific {negative : Bool} {coefficient : Nat} {exponent : Int}
    (h : ¬(exponent ≤ 0 ∧ -6 ≤ exponent + (natChars coefficient).length - 1)) :
    readReal? negative (finiteChars coefficient exponent) =
      some ⟨negative, coefficient, exponent⟩ := by
  have hDigits : ∀ c ∈ natChars coefficient, c.isDigit := fun c hc => isDigit_of_mem_natChars hc
  have hValue := digitsValue_natChars coefficient
  have h' : (decide (exponent ≤ 0) &&
      decide (-6 ≤ exponent + ((natChars coefficient).length : Int) - 1)) = false := by
    simpa using h
  simp only [finiteChars, h', Bool.false_eq_true, if_false]
  obtain ⟨lead, hl⟩ : ∃ lead, lead = exponent + ((natChars coefficient).length : Int) - 1 :=
    ⟨_, rfl⟩
  change readReal? negative (_ ++ exponentChars (exponent + (natChars coefficient).length - 1)) = _
  rw [← hl]
  have hEnds := endsDigits_exponentChars lead
  generalize hcs : natChars coefficient = cs at hDigits hValue hl ⊢
  -- one digit has no point behind it
  match cs with
  | [] => exact absurd hcs (natChars_ne_nil coefficient)
  | [c] =>
    rw [readReal?_whole hDigits (by simp) hEnds, readExponent?_exponentChars]
    simp [hValue, hl]
  | c :: d :: rest =>
    have hFirst : ∀ x ∈ [c], x.isDigit := by simpa using hDigits c (by simp)
    have hMore : ∀ x ∈ d :: rest, x.isDigit := fun x hx => hDigits x (List.mem_cons_of_mem c hx)
    refine (readReal?_point hFirst hMore (by simp) hEnds).trans ?_
    rw [readExponent?_exponentChars]
    simp [hValue, hl]
    omega

/-- Both forms of a finite decimal are read back as they were written. -/
theorem readReal?_finiteChars (negative : Bool) (coefficient : Nat) (exponent : Int) :
    readReal? negative (finiteChars coefficient exponent) =
      some ⟨negative, coefficient, exponent⟩ := by
  by_cases h : exponent ≤ 0 ∧ -6 ≤ exponent + (natChars coefficient).length - 1
  · exact readReal?_plain h.1 h.2
  · exact readReal?_scientific h

theorem isNumeral_of_mem_exponentChars {e : Int} {c : Char} (h : c ∈ exponentChars e) :
    IsNumeral c := by
  simp only [exponentChars, List.mem_cons] at h
  rcases h with rfl | rfl | h
  · exact .inr (by decide)
  · exact .inr (by split <;> decide)
  · exact .inl (isDigit_of_mem_natChars h)

/-- A written finite decimal begins with digits, and holds nothing but characters of numerals. -/
theorem exists_digits_finiteChars (coefficient : Nat) (exponent : Int) :
    ∃ whole rest, finiteChars coefficient exponent = whole ++ rest ∧ whole ≠ [] ∧
      (∀ c ∈ whole, c.isDigit) ∧ ∀ c ∈ rest, IsNumeral c := by
  have hDigits : ∀ c ∈ natChars coefficient, c.isDigit := fun c hc => isDigit_of_mem_natChars hc
  simp only [finiteChars]
  split
  · split
    · exact ⟨_, [], (List.append_nil _).symm, natChars_ne_nil _, hDigits, by simp⟩
    · have hPadded : ∀ c ∈ List.replicate ((-exponent).toNat + 1 - (natChars coefficient).length) '0'
          ++ natChars coefficient, c.isDigit := by
        intro c hc
        rcases List.mem_append.mp hc with hc | hc
        · rw [List.eq_of_mem_replicate hc]; decide
        · exact hDigits c hc
      refine ⟨_, _, rfl, List.ne_nil_of_length_pos ?_,
        fun c hc => hPadded c (List.mem_of_mem_take hc), fun c hc => ?_⟩
      · simp; omega
      · rcases List.mem_cons.mp hc with rfl | hc
        · exact .inr (by decide)
        · exact .inl (hPadded c (List.mem_of_mem_drop hc))
  · have hTail : ∀ {c}, c ∈ exponentChars (exponent + (natChars coefficient).length - 1) →
        IsNumeral c := isNumeral_of_mem_exponentChars
    generalize hcs : natChars coefficient = cs at hDigits hTail
    -- with an exponent there is one digit before the point
    match cs with
    | [] => exact absurd hcs (natChars_ne_nil coefficient)
    | [c] => exact ⟨[c], _, rfl, by simp, hDigits, fun _ => hTail⟩
    | c :: d :: rest =>
      refine ⟨[c], '.' :: d :: rest ++ _, rfl, by simp, by simpa using hDigits c (by simp), ?_⟩
      intro x hx
      rcases List.mem_append.mp hx with hx | hx
      · rcases List.mem_cons.mp hx with rfl | hx
        · exact .inr (by decide)
        · exact .inl (hDigits x (List.mem_cons_of_mem c hx))
      · exact hTail hx

/-- What begins with a digit is no word. -/
theorem not_word_of_isDigit {c : Char} (h : c.isDigit) (cs : List Char) :
    String.ofList (foldAscii (c :: cs)) ≠ "inf" ∧ String.ofList (foldAscii (c :: cs)) ≠ "infinity" ∧
      ∀ negative, readNan? negative (c :: cs) = none := by
  have hSmall : c.toLower ≠ 'i' ∧ c.toLower ≠ 'n' ∧ c.toLower ≠ 's' :=
    isDigit_cases (motive := fun c => c.toLower ≠ 'i' ∧ c.toLower ≠ 'n' ∧ c.toLower ≠ 's')
      (by decide) h
  refine ⟨fun h => ?_, fun h => ?_, fun negative => ?_⟩
  · have := congrArg String.toList h
    simp [foldAscii, hSmall.1] at this
  · have := congrArg String.toList h
    simp [foldAscii, hSmall.1] at this
  · have hNoNan : afterWord? "nan" (c :: cs) = none := by
      simp [afterWord?, foldAscii, List.isPrefixOf, Ne.symm hSmall.2.1]
    have hNoSnan : afterWord? "snan" (c :: cs) = none := by
      simp [afterWord?, foldAscii, List.isPrefixOf, Ne.symm hSmall.2.2]
    simp [readNan?, hNoNan, hNoSnan]

theorem toList_text (negative : Bool) (coefficient : Nat) (exponent : Int) :
    (finite negative coefficient exponent).text.toList =
      signChars negative ++ finiteChars coefficient exponent :=
  String.toList_ofList

theorem isNumeral_of_mem_text {negative : Bool} {coefficient : Nat} {exponent : Int} {c : Char}
    (h : c ∈ (finite negative coefficient exponent).text.toList) : IsNumeral c := by
  obtain ⟨whole, rest, heq, -, hDigits, hMore⟩ := exists_digits_finiteChars coefficient exponent
  rw [toList_text, heq, List.mem_append, List.mem_append] at h
  rcases h with h | h | h
  · exact isNumeral_of_mem_signChars h
  · exact .inl (hDigits c h)
  · exact hMore c h

/-- **Finite decimals are read back.** A finite decimal within the limits of the exponent is what
its text spells: sign, digits and exponent. -/
theorem read?_text {negative : Bool} {coefficient : Nat} {exponent : Int}
    (h : InRange coefficient exponent) :
    read? (finite negative coefficient exponent).text.toList =
      some (finite negative coefficient exponent) := by
  obtain ⟨whole, rest, heq, hne, hDigits, -⟩ := exists_digits_finiteChars coefficient exponent
  have hText := toList_text negative coefficient exponent
  have hNumeral : ∀ c ∈ signChars negative ++ finiteChars coefficient exponent, IsNumeral c :=
    fun c hc => isNumeral_of_mem_text (hText ▸ hc)
  -- Trimming, dropping underscores and plain digits leave the text as it is.
  have hTrim : trimChars (signChars negative ++ finiteChars coefficient exponent)
      = signChars negative ++ finiteChars coefficient exponent :=
    stripChars_of_forall fun c hc => (hNumeral c hc).isBlank_eq_false
  have hFilter := List.filter_eq_self.mpr fun c hc => (hNumeral c hc).ne_underscore
  have hPlain : (signChars negative ++ finiteChars coefficient exponent).map plainDigit
      = signChars negative ++ finiteChars coefficient exponent :=
    (List.map_congr_left fun c hc => (hNumeral c hc).plainDigit_eq).trans (List.map_id' _)
  obtain ⟨c, ds, rfl⟩ := List.exists_cons_of_ne_nil hne
  have hFirst : c.isDigit := hDigits c (by simp)
  have hSign : takeSign (signChars negative ++ finiteChars coefficient exponent)
      = (negative, finiteChars coefficient exponent) := by
    apply takeSign_signChars
    rw [heq]
    rintro x ⟨⟩
    exact hFirst
  obtain ⟨hNoInf, hNoInfinity, hNoNan⟩ := not_word_of_isDigit hFirst (ds ++ rest)
  rw [← List.cons_append, ← heq] at hNoInf hNoInfinity hNoNan
  simp only [read?, hText, hTrim, hFilter, hPlain, hSign, hNoNan, readReal?_finiteChars]
  simp [hNoInf, hNoInfinity, h]

end Winnow.Decimal
