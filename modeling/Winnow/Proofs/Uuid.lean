import Winnow.Proofs.Text.Digits
import Winnow.Uuid

/-!
# Winnow.Proofs.Uuid — identifiers are read back

Main statement: the written form of an identifier, five groups of digits between dashes, is read
back as the identifier (`Uuid.read?_text`). What the reader drops for the sake of other spellings —
marks of a URN, braces, dashes, a mark of base sixteen — either does not occur in the written form
or is what the form adds to the digits.
-/

namespace Winnow

namespace Text

/-- Nothing is replaced in a text that lacks a character of what is sought. -/
theorem replaceChars_eq_self {old new cs : List Char} {c : Char} (hc : c ∈ old) (h : c ∉ cs) :
    replaceChars old new cs = cs := by
  have hGo : ∀ fuel, replaceChars.go old new cs fuel = cs := by
    induction cs with
    | nil => intro fuel; rw [replaceChars.go]
    | cons x cs ih =>
      intro fuel
      cases fuel with
      | zero => rw [replaceChars.go]; simp
      | succ fuel =>
        have hNoPrefix : old.isPrefixOf (x :: cs) = false := by
          rw [Bool.eq_false_iff]
          intro hp
          exact h ((List.isPrefixOf_iff_prefix.mp hp).subset hc)
        simp [replaceChars.go, hNoPrefix, ih (fun hx => h (List.mem_cons_of_mem x hx))]
  exact hGo cs.length

end Text

namespace Uuid

open Text (hexDigits)

/-- The characters of the written form: digits, and dashes between the groups. -/
theorem mem_text {u : Uuid} {c : Char} (h : c ∈ u.text.toList) :
    c = '-' ∨ ∃ d < 16, c = Nat.digitChar d := by
  simp only [text, String.toList_ofList, List.mem_append, List.mem_cons] at h
  have hDigit : ∀ {c}, c ∈ u.hexChars → ∃ d < 16, c = Nat.digitChar d := Text.mem_hexDigits
  have hGroup : ∀ {n c}, c ∈ (u.hexChars.drop n).take 4 → ∃ d < 16, c = Nat.digitChar d :=
    fun h => hDigit (List.mem_of_mem_drop (List.mem_of_mem_take h))
  rcases h with (((h | rfl | h) | rfl | h) | rfl | h) | rfl | h
  · exact .inr (hDigit (List.mem_of_mem_take h))
  · exact .inl rfl
  · exact .inr (hGroup h)
  · exact .inl rfl
  · exact .inr (hGroup h)
  · exact .inl rfl
  · exact .inr (hGroup h)
  · exact .inl rfl
  · exact .inr (hDigit (List.mem_of_mem_drop h))

theorem isBlank_of_mem_text {u : Uuid} {c : Char} (h : c ∈ u.text.toList) :
    Text.isBlank c = false := by
  rcases mem_text h with rfl | ⟨d, hd, rfl⟩
  · decide
  · exact Text.isBlank_digitChar d hd

theorem take_drop_append {α : Type} (xs : List α) (n m : Nat) :
    (xs.drop n).take m ++ xs.drop (n + m) = xs.drop n := by
  rw [← List.drop_drop, List.take_append_drop]

/-- Without its dashes the written form is the row of digits. -/
theorem filter_text (u : Uuid) : u.text.toList.filter (· != '-') = u.hexChars := by
  have hKeep : ∀ cs : List Char, (∀ c ∈ cs, c ∈ u.hexChars) → cs.filter (· != '-') = cs := by
    intro cs hcs
    refine List.filter_eq_self.mpr fun c hc => ?_
    obtain ⟨d, hd, rfl⟩ := Text.mem_hexDigits (hcs c hc)
    have := Text.digitChar_not_mem_marks d hd
    simp_all
  have hTake : (u.hexChars.take 8).filter (· != '-') = u.hexChars.take 8 :=
    hKeep _ fun c => List.mem_of_mem_take
  have hGroup : ∀ n, ((u.hexChars.drop n).take 4).filter (· != '-') = (u.hexChars.drop n).take 4 :=
    fun n => hKeep _ fun c h => List.mem_of_mem_drop (List.mem_of_mem_take h)
  have hDrop : (u.hexChars.drop 20).filter (· != '-') = u.hexChars.drop 20 :=
    hKeep _ fun c => List.mem_of_mem_drop
  have hDash : ∀ cs, ('-' :: cs).filter (· != '-') = cs.filter (· != '-') := fun cs => rfl
  -- the groups lie one behind the other in the row
  have hLast : (u.hexChars.drop 16).take 4 ++ u.hexChars.drop 20 = u.hexChars.drop 16 :=
    take_drop_append _ 16 4
  have hThird : (u.hexChars.drop 12).take 4 ++ u.hexChars.drop 16 = u.hexChars.drop 12 :=
    take_drop_append _ 12 4
  have hSecond : (u.hexChars.drop 8).take 4 ++ u.hexChars.drop 12 = u.hexChars.drop 8 :=
    take_drop_append _ 8 4
  simp only [text, String.toList_ofList, List.filter_append, hDash, hTake, hGroup, hDrop,
    List.append_assoc, hLast, hThird, hSecond, List.take_append_drop]

/-- What the reader drops for other spellings leaves the digits of the written form. -/
theorem bareChars_text (u : Uuid) : bareChars u.text.toList = u.hexChars := by
  have hNoColon : ':' ∉ u.text.toList := by
    intro h
    rcases mem_text h with h | ⟨d, hd, h⟩
    · exact absurd h (by decide)
    · exact Text.digitChar_not_mem_marks d hd (by simp [← h])
  have hNoBrace : ∀ c ∈ u.text.toList, (c == '\x7b' || c == '\x7d') = false := by
    intro c h
    rcases mem_text h with rfl | ⟨d, hd, rfl⟩
    · decide
    · have := Text.digitChar_not_mem_marks d hd
      simp_all
  rw [bareChars, Text.replaceChars_eq_self (c := ':') (by decide) hNoColon,
    Text.replaceChars_eq_self (c := ':') (by decide) hNoColon,
    Text.stripChars_of_forall hNoBrace, filter_text]

theorem isSkipped_digitChar : ∀ d < 16, Number.isSkipped (Nat.digitChar d) = false := by
  decide

/-- A text without signs has none to split off. -/
theorem takeSign_eq_self {cs : List Char} (hMinus : '-' ∉ cs) (hPlus : '+' ∉ cs) :
    Number.takeSign cs = (false, cs) := by
  unfold Number.takeSign
  split
  · simp at hMinus
  · simp at hPlus
  · rfl

theorem dropHexMark_eq_self {cs : List Char} (hSmall : 'x' ∉ cs) (hCapital : 'X' ∉ cs) :
    Number.dropHexMark cs = cs := by
  unfold Number.dropHexMark
  split
  · next x rest =>
    have : x ≠ 'x' ∧ x ≠ 'X' := by
      constructor <;> rintro rfl
      · simp at hSmall
      · simp at hCapital
    simp [this.1, this.2]
  · rfl

theorem readHex?_hexChars (u : Uuid) : Number.readHex? u.hexChars = some u.number := by
  have hMarks : ∀ c ∈ u.hexChars, c ∉ ['_', '-', '+', ':', 'x', 'X', '\x7b', '\x7d'] := by
    intro c hc
    obtain ⟨d, hd, rfl⟩ := Text.mem_hexDigits hc
    exact Text.digitChar_not_mem_marks d hd
  have hSkip : Number.skipBlanks u.hexChars = u.hexChars := by
    refine Text.stripChars_of_forall fun c hc => ?_
    obtain ⟨d, hd, rfl⟩ := Text.mem_hexDigits hc
    exact isSkipped_digitChar d hd
  have hValue : Number.readGrouped Number.hexValue? 16 0 false u.hexChars = some u.number :=
    Text.readGrouped_hexDigits (by decide) u.inRange
  have hAbsent : ∀ m ∈ ['_', '-', '+', ':', 'x', 'X', '\x7b', '\x7d'], m ∉ u.hexChars :=
    fun m hm h => hMarks m h hm
  simp only [Number.readHex?, hSkip,
    takeSign_eq_self (hAbsent '-' (by decide)) (hAbsent '+' (by decide)),
    dropHexMark_eq_self (hAbsent 'x' (by decide)) (hAbsent 'X' (by decide)), hValue]
  rfl

/-- **Identifiers are read back.** An identifier is what its written form spells. -/
theorem read?_text (u : Uuid) : read? u.text.toList = some u := by
  have hLength : u.hexChars.length = 32 := Text.length_hexDigits 32 u.number
  simp [read?, bareChars_text, hLength, readHex?_hexChars, ofNumber?, u.inRange]

end Uuid

end Winnow
