import Winnow.Proofs.Calendar.RoundTrip
import Winnow.Proofs.Number.RoundTrip
import Winnow.Proofs.Uuid
import Winnow.Store.Coercion

/-!
# Winnow.Proofs.Store.Coercion — values copied into a filter

A value that an answer shows can be copied into a filter as text. Main statement: the column of the
value's type reads the text back as the value (`Column.coerce_spelled`), for every boolean, integer,
finite decimal, identifier, day and date-time, in each form that stands in answers. The one
exception is a date-time whose offset is a fraction of a second, which comes back with an offset of
zero, as another moment (`Column.fractionalOffset_is_lost`).
-/

namespace Winnow

open Text (natChars trim)
open Number (maxDigits)

/-! ## Text forms -/

/-- Is the text a form of the value, a value that cells of this kind hold? Date-times have two
forms; a column with a zone holds none without an offset. -/
inductive ColumnKind.Spells : ColumnKind → Value → String → Prop
  | boolean (b : Bool) : Spells .boolean (.bool b) (Value.boolText b)
  | integer (n : Int) (short : (natChars n.natAbs).length ≤ maxDigits) :
    Spells .integer (.int n) (Text.intText n)
  | decimal (negative : Bool) (coefficient : Nat) (exponent : Int)
    (inRange : Decimal.InRange coefficient exponent) :
    Spells .decimal (.decimal (.finite negative coefficient exponent))
      (Decimal.finite negative coefficient exponent).text
  | uuid (u : Uuid) : Spells .uuid (.uuid u) u.text
  | date (d : Date) : Spells .date (.date d) d.text
  | isoDateTime (zoned : Bool) (t : DateTime) (aware : zoned = true → t.isNaive = false) :
    Spells (.dateTime zoned) (.dateTime t) t.isoText
  | spacedDateTime (zoned : Bool) (t : DateTime) (aware : zoned = true → t.isNaive = false) :
    Spells (.dateTime zoned) (.dateTime t) t.spacedText

/-- The value as it is read back from its text. -/
def Value.asRead : Value → Value
  | .dateTime t => .dateTime t.asRead
  | v => v

/-- Is the value a date-time whose offset is a fraction of a second, but not zero? -/
def Value.HasFractionalOffset (v : Value) : Prop :=
  ∃ t, v = .dateTime t ∧ ∃ o ∈ t.offset, o.IsFraction

theorem Value.asRead_eq_self_iff (v : Value) : v.asRead = v ↔ ¬v.HasFractionalOffset := by
  by_cases h : ∃ t, v = .dateTime t
  · obtain ⟨t, rfl⟩ := h
    simp [asRead, HasFractionalOffset, DateTime.asRead_eq_self_iff]
  · have hSame : v.asRead = v := by
      cases v <;> first | rfl | exact absurd ⟨_, rfl⟩ h
    have hNone : ¬v.HasFractionalOffset := fun ⟨t, ht, _⟩ => h ⟨t, ht⟩
    simp [hSame, hNone]

/-! ## Texts are taken as they stand, and integers as their numerals -/

theorem Value.display_text (s : String) : (Value.text s).display = s := rfl

theorem Value.displayOrEmpty_text (s : String) : (Value.text s).displayOrEmpty = s := by
  rw [displayOrEmpty, display_text]
  by_cases h : s = ""
  · simp [h]
  · simp [isTruthy, h]

theorem Value.display_int (n : Int) : (Value.int n).display = Text.intText n := rfl

theorem Value.displayOrEmpty_int {n : Int} (h : n ≠ 0) :
    (Value.int n).displayOrEmpty = Text.intText n := by
  have hCounts : (Value.int n).isTruthy = true := bne_iff_ne.mpr h
  rw [displayOrEmpty, if_pos hCounts, display_int]

namespace Column

/-- What is taken of a text has been read in it. -/
theorem exists_of_orRefuse {α : Type} {column : String} {expected : Expected} {a? : Option α}
    {make : α → Value} {v : Value} (h : orRefuse column expected (a?.map make) = .ok v) :
    ∃ a, a? = some a ∧ v = make a := by
  cases a? with
  | none => cases h
  | some a => exact ⟨a, rfl, (Except.ok.inj h).symm⟩

theorem eq_of_orRefuse_eq_error {α : Type} {column : String} {expected : Expected} {a? : Option α}
    {e : Error} (h : orRefuse column expected a? = .error e) :
    e = .invalidArgument column expected := by
  cases a? with
  | none => exact (Except.error.inj h).symm
  | some a => cases h

/-! Whatever the argument, each kind of column makes values of one kind. -/

section

variable {column : String} {v w : Value}

theorem exists_of_coerceBool (h : coerceBool column v = .ok w) : ∃ b, w = .bool b := by
  unfold coerceBool at h
  dsimp only at h
  split at h
  · exact ⟨_, (Except.ok.inj h).symm⟩
  · split at h
    · exact ⟨true, (Except.ok.inj h).symm⟩
    · split at h
      · exact ⟨false, (Except.ok.inj h).symm⟩
      · cases h

theorem exists_of_coerceInt (h : coerceInt column v = .ok w) : ∃ n, w = .int n := by
  unfold coerceInt at h
  split at h
  · exact ⟨_, (Except.ok.inj h).symm⟩
  · split at h
    · cases h
    · cases h
    · exact ⟨_, (Except.ok.inj h).symm⟩
  · obtain ⟨n, -, hw⟩ := exists_of_orRefuse h
    exact ⟨n, hw⟩

theorem exists_of_coerceDouble (h : coerceDouble column v = .ok w) : ∃ x, w = .double x := by
  unfold coerceDouble at h
  split at h
  · dsimp only at h
    split at h
    · exact ⟨_, (Except.ok.inj h).symm⟩
    · cases h
  · exact ⟨_, (Except.ok.inj h).symm⟩
  · obtain ⟨x, -, hw⟩ := exists_of_orRefuse h
    exact ⟨x, hw⟩

theorem exists_of_coerceDecimal (h : coerceDecimal column v = .ok w) : ∃ d, w = .decimal d := by
  unfold coerceDecimal at h
  split at h
  · exact ⟨_, (Except.ok.inj h).symm⟩
  · obtain ⟨d, -, hw⟩ := exists_of_orRefuse h
    exact ⟨d, hw⟩

theorem exists_of_coerceDate (h : coerceDate column v = .ok w) : ∃ d, w = .date d := by
  unfold coerceDate at h
  split at h
  · exact ⟨_, (Except.ok.inj h).symm⟩
  · exact ⟨_, (Except.ok.inj h).symm⟩
  · obtain ⟨d, -, hw⟩ := exists_of_orRefuse h
    exact ⟨d, hw⟩

theorem exists_of_coerceDateTime {zoned : Bool} (h : coerceDateTime column zoned v = .ok w) :
    ∃ t : DateTime, w = .dateTime (if zoned then t.aware else t) := by
  unfold coerceDateTime at h
  dsimp only at h
  split at h
  · exact ⟨_, (Except.ok.inj h).symm⟩
  · obtain ⟨t, -, hw⟩ := exists_of_orRefuse h
    exact ⟨t, hw⟩

theorem exists_of_coerceUuid (h : coerceUuid column v = .ok w) : ∃ u, w = .uuid u := by
  unfold coerceUuid at h
  split at h
  · exact ⟨_, (Except.ok.inj h).symm⟩
  · split at h
    · exact ⟨_, (Except.ok.inj h).symm⟩
    · cases h

theorem isText_coerceText (v : Value) : (coerceText v).isText = true := by
  rw [coerceText]
  split
  · assumption
  · rfl

end

/-! Trimmed, a text goes to the reader of the column's kind. The equations of these functions are
slow to make, hence `unfold`. -/

theorem coerceBool_of_text (column s : String) :
    coerceBool column (.text s) =
      if trueWords.contains (Text.lower (trim s)) then .ok (.bool true)
      else if falseWords.contains (Text.lower (trim s)) then .ok (.bool false)
      else refuse column .boolean := by
  unfold coerceBool
  dsimp only
  rw [Value.displayOrEmpty_text]

theorem coerceInt_of_text (column s : String) :
    coerceInt column (.text s) =
      orRefuse column .number ((Number.readInt? (trim s).toList).map .int) := rfl

theorem coerceDouble_of_text (column s : String) :
    coerceDouble column (.text s) =
      orRefuse column .number ((Number.readDouble? (trim s).toList).map .double) := rfl

theorem coerceDecimal_of_text (column s : String) :
    coerceDecimal column (.text s) =
      orRefuse column .number ((Decimal.read? (trim s).toList).map .decimal) := rfl

theorem coerceDate_of_text (column s : String) :
    coerceDate column (.text s) = orRefuse column .date
      ((if hasTime (trim s).toList then (readDateTime? (trim s).toList).map (·.date)
        else Calendar.Iso.readDate? (trim s).toList).map .date) := by
  unfold coerceDate
  dsimp only
  rw [Value.displayOrEmpty_text]

theorem coerceDateTime_of_text (column : String) (zoned : Bool) (s : String) :
    coerceDateTime column zoned (.text s) = orRefuse column .dateTime
      ((dateTimeOfText? (trim s).toList).map
        fun t => .dateTime (if zoned then t.aware else t)) := by
  unfold coerceDateTime
  dsimp only
  rw [Value.displayOrEmpty_text]

/-! ## Kind by kind -/

theorem coerceBool_boolText (column : String) (b : Bool) :
    coerceBool column (.text (Value.boolText b)) = .ok (.bool b) := by
  have hWord : ∀ b, trueWords.contains (Text.lower (trim (Value.boolText b))) = b ∧
      falseWords.contains (Text.lower (trim (Value.boolText b))) = !b := by
    decide
  rw [coerceBool_of_text, (hWord b).1, (hWord b).2]
  cases b <;> rfl

theorem coerceInt_intText (column : String) {n : Int}
    (hShort : (natChars n.natAbs).length ≤ maxDigits) :
    coerceInt column (.text (Text.intText n)) = .ok (.int n) := by
  have hKeep : Text.trimChars (Text.intText n).toList = (Text.intText n).toList :=
    Text.stripChars_of_forall fun c hc => (Number.isNumeral_of_mem_intText hc).isBlank_eq_false
  rw [coerceInt_of_text, Text.toList_trim, hKeep, Number.readInt?_intText hShort]
  rfl

theorem coerceDecimal_text (column : String) {negative : Bool} {coefficient : Nat} {exponent : Int}
    (hInRange : Decimal.InRange coefficient exponent) :
    coerceDecimal column (.text (Decimal.finite negative coefficient exponent).text) =
      .ok (.decimal (.finite negative coefficient exponent)) := by
  have hKeep : Text.trimChars (Decimal.finite negative coefficient exponent).text.toList =
      (Decimal.finite negative coefficient exponent).text.toList :=
    Text.stripChars_of_forall fun c hc => (Decimal.isNumeral_of_mem_text hc).isBlank_eq_false
  rw [coerceDecimal_of_text, Text.toList_trim, hKeep, Decimal.read?_text hInRange]
  rfl

theorem coerceUuid_text (column : String) (u : Uuid) :
    coerceUuid column (.text u.text) = .ok (.uuid u) := by
  have hKeep : Text.trimChars u.text.toList = u.text.toList :=
    Text.stripChars_of_forall fun c hc => Uuid.isBlank_of_mem_text hc
  unfold coerceUuid
  dsimp only
  rw [Value.display_text, Text.toList_trim, hKeep, Uuid.read?_text]

/-- The written forms of days and date-times begin and end with digits, so trimming keeps them. -/
theorem trimChars_of_digits {cs : List Char} (hFirst : ∀ c ∈ cs.head?, c.isDigit)
    (hLast : ∀ c ∈ cs.getLast?, c.isDigit) : Text.trimChars cs = cs := by
  have hDigit : ∀ {c : Char}, c.isDigit → Text.isBlank c = false := fun h =>
    (Number.isNumeral_of_isDigit h).isBlank_eq_false
  exact Text.stripChars_eq_self (fun c hc => hDigit (hFirst c hc)) fun c hc => hDigit (hLast c hc)

theorem coerceDate_text (column : String) (d : Date) :
    coerceDate column (.text d.text) = .ok (.date d) := by
  have hKeep : Text.trimChars d.text.toList = d.text.toList :=
    trimChars_of_digits (by simpa using Calendar.Iso.head_dateText d [])
      (Calendar.Iso.endsInDigit_dateText d).getLast
  have hNoTime : hasTime d.text.toList = false := by
    have hAbsent : ∀ x, x.isDigit = false → x ≠ '-' → x ∉ d.text.toList := by
      intro x hDigit hDash h
      rcases Calendar.Iso.mem_dateText h with h | h
      · rw [h] at hDigit
        exact Bool.noConfusion hDigit
      · exact hDash h
    simp [hasTime, hAbsent 'T' (by decide) (by decide), hAbsent ' ' (by decide) (by decide)]
  rw [coerceDate_of_text, Text.toList_trim, hKeep, hNoTime, if_neg Bool.false_ne_true,
    Calendar.Iso.readDate?_text]
  rfl

/-- Without a letter that stands for an offset of zero, a date-time is read as it is written. -/
theorem readDateTime?_of_not_mem {cs : List Char} (hNoZ : 'Z' ∉ cs) :
    readDateTime? cs = Calendar.Iso.readDateTime? cs := by
  have hSame : cs.flatMap (fun c => if c == 'Z' then "+00:00".toList else [c]) = cs := by
    induction cs with
    | nil => rfl
    | cons x cs ih =>
      rw [List.mem_cons, not_or] at hNoZ
      rw [List.flatMap_cons, ih hNoZ.2]
      simp [Ne.symm hNoZ.1]
  rw [readDateTime?, hSame]

theorem readDateTime?_textWith {separator : String} {c : Char} (hc : separator.toList = [c])
    (hz : c ≠ 'Z') (t : DateTime) :
    readDateTime? (t.textWith separator).toList = some t.asRead := by
  have hNoZ : 'Z' ∉ (t.textWith separator).toList := by
    intro hx
    rcases Calendar.Iso.mem_textWith hx with h | h | h
    · rw [hc, List.mem_singleton] at h
      exact hz h.symm
    · exact absurd h (by decide)
    · exact absurd h (by decide)
  rw [readDateTime?_of_not_mem hNoZ, Calendar.Iso.readDateTime?_textWith hc]

theorem trimChars_textWith (separator : String) (t : DateTime) :
    Text.trimChars (t.textWith separator).toList = (t.textWith separator).toList := by
  refine trimChars_of_digits ?_ (Calendar.Iso.endsInDigit_textWith _ t).getLast
  rw [Calendar.Iso.toList_textWith]
  exact Calendar.Iso.head_dateText t.date _

section Separated

variable {column separator : String} {zoned : Bool} {t : DateTime} {c : Char}

/-- What separates a date from a time tells that there is a time. -/
theorem hasTime_textWith (hsep : separator.toList = [c]) (hc : c = 'T' ∨ c = ' ') :
    hasTime (t.textWith separator).toList = true := by
  have : c ∈ (t.textWith separator).toList := by
    simp [Calendar.Iso.toList_textWith, hsep]
  rcases hc with rfl | rfl <;> simp [hasTime, this]

theorem readDateTime?_separated (hsep : separator.toList = [c]) (hc : c = 'T' ∨ c = ' ') :
    readDateTime? (t.textWith separator).toList = some t.asRead := by
  refine readDateTime?_textWith hsep ?_ t
  rcases hc with rfl | rfl <;> decide

/-- A date-time with one of the two separators, in a column of date-times. -/
theorem coerceDateTime_textWith (hsep : separator.toList = [c]) (hc : c = 'T' ∨ c = ' ')
    (hAware : zoned = true → t.isNaive = false) :
    coerceDateTime column zoned (.text (t.textWith separator)) = .ok (.dateTime t.asRead) := by
  have hRead : dateTimeOfText? (t.textWith separator).toList = some t.asRead := by
    simp [dateTimeOfText?, hasTime_textWith hsep hc, readDateTime?_separated hsep hc]
  have hSettled : (if zoned then t.asRead.aware else t.asRead) = t.asRead := by
    cases zoned with
    | false => rfl
    | true =>
      obtain ⟨o, ho⟩ := Option.isSome_iff_exists.mp (by simpa [DateTime.isNaive] using hAware rfl)
      simp [DateTime.aware, DateTime.asRead, ho]
  rw [coerceDateTime_of_text, Text.toList_trim, trimChars_textWith, hRead, Option.map_some, hSettled]
  rfl

/-- The same in a column of dates: the time is dropped. -/
theorem coerceDate_textWith (hsep : separator.toList = [c]) (hc : c = 'T' ∨ c = ' ') :
    coerceDate column (.text (t.textWith separator)) = .ok (.date t.date) := by
  rw [coerceDate_of_text, Text.toList_trim, trimChars_textWith, if_pos (hasTime_textWith hsep hc),
    readDateTime?_separated hsep hc]
  rfl

end Separated

/-- **A value copied from an answer is read back.** The text of a value, given to a column of its
type, is coerced to the value as it is read back; that is the value itself exactly if it is no
date-time with an offset of a fraction of a second. -/
theorem coerce_spelled {c : Column} {v : Value} {s : String} (h : c.kind.Spells v s) :
    c.coerce (.text s) = .ok v.asRead ∧
      (c.coerce (.text s) = .ok v ↔ ¬v.HasFractionalOffset) := by
  have hRead : c.coerce (.text s) = .ok v.asRead := by
    obtain ⟨name, kind⟩ := c
    cases h with simp only [coerce, Value.asRead]
    | boolean b => exact coerceBool_boolText name b
    | integer n hShort => exact coerceInt_intText name hShort
    | decimal negative coefficient exponent hInRange => exact coerceDecimal_text name hInRange
    | uuid u => exact coerceUuid_text name u
    | date d => exact coerceDate_text name d
    | isoDateTime zoned t hAware =>
      rw [DateTime.isoText, coerceDateTime_textWith (c := 'T') rfl (.inl rfl) hAware]
    | spacedDateTime zoned t hAware =>
      rw [DateTime.spacedText, coerceDateTime_textWith (c := ' ') rfl (.inr rfl) hAware]
  refine ⟨hRead, ?_⟩
  rw [hRead, Except.ok.injEq, Value.asRead_eq_self_iff]

/-- Fifteen tenths of a nanometre below zero keep the last zero, their exponent and their sign. -/
theorem coerce_spelled_negativeDecimal :
    ColumnKind.Spells .decimal (.decimal (.finite true 150 (-11))) "-1.50E-9" ∧
      (Column.mk "price" .decimal).coerce (.text "-1.50E-9") =
        .ok (.decimal (.finite true 150 (-11))) := by
  have hSpells : ColumnKind.Spells .decimal (.decimal (.finite true 150 (-11))) "-1.50E-9" := by
    have hText : (Decimal.finite true 150 (-11)).text = "-1.50E-9" := by decide
    exact hText ▸ .decimal true 150 (-11) (by decide)
  exact ⟨hSpells, (coerce_spelled (c := ⟨"price", .decimal⟩) hSpells).1⟩

/-- New Year 2024 at midnight, a microsecond east of Greenwich. -/
def eastNewYear : DateTime := ⟨⟨2024, 1, 1, by decide⟩, .midnight, some ⟨1, by decide⟩⟩

/-- Where the offset is a fraction of a second, the text of a date-time comes back as that of
another moment. -/
theorem fractionalOffset_is_lost :
    ColumnKind.Spells (.dateTime true) (.dateTime eastNewYear)
        "2024-01-01T00:00:00+00:00:00.000001" ∧
      (Column.mk "dt_col" (.dateTime true)).coerce (.text "2024-01-01T00:00:00+00:00:00.000001") =
        .ok (.dateTime { eastNewYear with offset := some .utc }) ∧
      eastNewYear.sameMoment { eastNewYear with offset := some .utc } = false := by
  have hText : eastNewYear.isoText = "2024-01-01T00:00:00+00:00:00.000001" := by decide
  have hRead : coerceDateTime "dt_col" true (.text (eastNewYear.textWith "T")) =
      .ok (.dateTime eastNewYear.asRead) :=
    coerceDateTime_textWith (c := 'T') rfl (.inl rfl) fun _ => rfl
  refine ⟨hText ▸ .isoDateTime true eastNewYear fun _ => rfl, ?_, by decide⟩
  rw [← hText]
  exact hRead

end Column

end Winnow
