import Winnow.Proofs.Calendar.Forms
import Winnow.Proofs.Store.Argument
import Winnow.Proofs.Store.Coercion

/-!
# Winnow.Proofs.Store.Reading — one argument read in two ways

Columns of different types read the same texts, and one column takes a number as it stands or as its
text. Main statements:

* a text that a column of dates takes is taken by every column of date-times as a point of time of the
  same day, unless a character of two bytes follows the day (`Column.dates_are_read_alike`,
  `Column.trailingLetter_is_no_time`);
* an integer and its text are taken as the same value or are both refused by every column of
  booleans, integers, decimals, dates, date-times, identifiers and texts, except for zero in a column
  of booleans (`Column.integers_are_read_as_text_iff`, `Column.zero_is_no_boolean`).
-/

namespace Winnow

open Text (intText trim)
open Calendar.Iso (TrailsLetter)

namespace Column

/-! ## Days -/

theorem hasTime_of_trailsLetter {cs : List Char} (h : TrailsLetter cs) : hasTime cs = false := by
  have hNoT : 'T' ∉ cs := h.not_mem (by decide) (by decide) (by decide)
  have hNoSpace : ' ' ∉ cs := h.not_mem (by decide) (by decide) (by decide)
  simp [hasTime, hNoT, hNoSpace]

/-- A text without a time that the date reader takes is the midnight of its day for the date-time
reader, unless a character of two bytes follows the day. -/
theorem dateTimeOfText?_of_readDate? {cs : List Char} {d : Date} (hNoTime : hasTime cs = false)
    (h : Calendar.Iso.readDate? cs = some d) :
    TrailsLetter cs ∧ dateTimeOfText? cs = none ∨
      ¬TrailsLetter cs ∧ dateTimeOfText? cs = some (.atMidnight d) := by
  cases Calendar.Iso.dayReading_of_readDate? h with
  | ofTen hTen =>
    have hClear : ¬TrailsLetter cs := mt TrailsLetter.length_eq (by omega)
    exact .inr ⟨hClear, by simp [dateTimeOfText?, hNoTime, hTen, h]⟩
  | midnight hShort hNoZone hRead =>
    have hClear : ¬TrailsLetter cs := mt TrailsLetter.length_eq (by omega)
    have hNotTen : cs.length ≠ 10 := by omega
    exact .inr ⟨hClear, by simp [dateTimeOfText?, hNotTen, readDateTime?_of_not_mem hNoZone, hRead]⟩
  | nothing hTrails hRead =>
    have hNine := hTrails.length_eq
    have hNotTen : cs.length ≠ 10 := by omega
    have hNoZone : 'Z' ∉ cs := hTrails.not_mem (by decide) (by decide) (by decide)
    exact .inl ⟨hTrails, by simp [dateTimeOfText?, hNotTen, readDateTime?_of_not_mem hNoZone, hRead]⟩

/-- A text in which a column of dates finds a day is a point of time of that day for a column of
date-times, unless a character of two bytes follows the day. -/
theorem dateTimeOfText?_cases {cs : List Char} {d : Date}
    (h : (if hasTime cs then (readDateTime? cs).map (·.date) else Calendar.Iso.readDate? cs) =
      some d) :
    TrailsLetter cs ∧ dateTimeOfText? cs = none ∨
      ¬TrailsLetter cs ∧ ∃ t, dateTimeOfText? cs = some t ∧ t.date = d := by
  cases hTime : hasTime cs with
  | true =>
    -- both columns read a date-time
    rw [hTime, if_pos rfl] at h
    obtain ⟨t, hRead, rfl⟩ := Option.map_eq_some_iff.mp h
    refine .inr ⟨fun hTrails => ?_, t, ?_, rfl⟩
    · rw [hasTime_of_trailsLetter hTrails] at hTime
      cases hTime
    · simp [dateTimeOfText?, hTime, hRead]
  | false =>
    rw [hTime, if_neg Bool.false_ne_true] at h
    rcases dateTimeOfText?_of_readDate? hTime h with hTrails | ⟨hNone, hRead⟩
    · exact .inl hTrails
    · exact .inr ⟨hNone, .atMidnight d, hRead, rfl⟩

/-- **A column of dates and one of date-times read the same day.** What the first takes of a text is a
day, and the second takes the text as a point of time of that day, unless a character of two bytes
follows the day in the text: then it refuses the text. -/
theorem dates_are_read_alike {a b s : String} {zoned : Bool} {v : Value}
    (h : (Column.mk a .date).coerce (.text s) = .ok v) :
    ∃ d, v = .date d ∧
      (¬TrailsLetter (trim s).toList → ∃ t,
        (Column.mk b (.dateTime zoned)).coerce (.text s) = .ok (.dateTime t) ∧ t.date = d) ∧
      (TrailsLetter (trim s).toList →
        (Column.mk b (.dateTime zoned)).coerce (.text s) =
          .error (.invalidArgument b .dateTime)) := by
  have hDate : coerceDate a (.text s) = .ok v := h
  have hDateTime : (Column.mk b (.dateTime zoned)).coerce (.text s) =
      coerceDateTime b zoned (.text s) := rfl
  rw [coerceDate_of_text] at hDate
  obtain ⟨d, hRead, rfl⟩ := exists_of_orRefuse hDate
  refine ⟨d, rfl, ?_⟩
  rw [hDateTime, coerceDateTime_of_text]
  rcases dateTimeOfText?_cases hRead with ⟨hTrails, hNone⟩ | ⟨hClear, t, hSome, rfl⟩
  · rw [hNone]
    exact ⟨fun hClear => absurd hTrails hClear, fun _ => rfl⟩
  · rw [hSome]
    refine ⟨fun _ => ⟨if zoned then t.aware else t, rfl, ?_⟩, fun hTrails => absurd hTrails hClear⟩
    cases zoned <;> rfl

/-- A text without a time is the day that the date reader finds in it. -/
theorem coerce_of_readDate? {a s : String} {d : Date} (hNoTime : hasTime (trim s).toList = false)
    (h : Calendar.Iso.readDate? (trim s).toList = some d) :
    (Column.mk a .date).coerce (.text s) = .ok (.date d) := by
  show coerceDate a (.text s) = .ok (.date d)
  rw [coerceDate_of_text, hNoTime, h]
  rfl

/-- The leap day of 2028, written without dashes. -/
theorem dates_are_read_alike_compact :
    (Column.mk "sold_on" .date).coerce (.text "20280229") = .ok (.date ⟨2028, 2, 29, by decide⟩) ∧
      ∃ t, (Column.mk "seen_at" (.dateTime true)).coerce (.text "20280229") =
        .ok (.dateTime t) ∧ t.date = ⟨2028, 2, 29, by decide⟩ := by
  have hDay : (Column.mk "sold_on" .date).coerce (.text "20280229") =
      .ok (.date ⟨2028, 2, 29, by decide⟩) := by
    apply coerce_of_readDate?
    · decide
    · decide
  have hClear : ¬TrailsLetter (trim "20280229").toList := by
    have hLength : (trim "20280229").toList.length = 8 := by decide
    exact mt TrailsLetter.length_eq (by omega)
  obtain ⟨d, hValue, hAlike, -⟩ := dates_are_read_alike hDay
  obtain ⟨t, hTaken, hSame⟩ := hAlike hClear
  obtain rfl := Value.date.inj hValue
  exact ⟨hDay, t, hTaken, hSame⟩

/-- The letter counts as the last two of ten bytes for the date reader, which does not look at them,
and as one of nine characters for the date-time reader. -/
theorem trailingLetter_is_no_time :
    (Column.mk "sold_on" .date).coerce (.text "20280229é") = .ok (.date ⟨2028, 2, 29, by decide⟩) ∧
      ∀ zoned, (Column.mk "seen_at" (.dateTime zoned)).coerce (.text "20280229é") =
        .error (.invalidArgument "seen_at" .dateTime) := by
  constructor
  · apply coerce_of_readDate?
    · decide
    · decide
  · intro zoned
    have hNone : dateTimeOfText? (trim "20280229é").toList = none := by decide
    show coerceDateTime "seen_at" zoned (.text "20280229é") =
      .error (.invalidArgument "seen_at" .dateTime)
    rw [coerceDateTime_of_text, hNone]
    rfl

/-! ## Numbers -/

/-- Is the error a refusal of an argument of the column? -/
def IsRefusal (c : Column) (e : Error) : Prop :=
  e = .invalidUuid c.name ∨ ∃ expected, e = .invalidArgument c.name expected

/-- Does the column take two values alike, as the same value or not at all? -/
inductive TakesAlike (c : Column) (v w : Value) : Prop
  | ok {r : Value} (first : c.coerce v = .ok r) (second : c.coerce w = .ok r)
  | error {e e' : Error} (first : c.coerce v = .error e) (second : c.coerce w = .error e')
    (first_isRefusal : c.IsRefusal e) (second_isRefusal : c.IsRefusal e')

/-- A text that a column does not take, it refuses. -/
theorem isRefusal_of_coerce_text {c : Column} {s : String} {e : Error}
    (h : c.coerce (.text s) = .error e) : c.IsRefusal e := by
  obtain ⟨name, kind⟩ := c
  cases kind with
  | boolean =>
    have hCoerce : coerceBool name (.text s) = .error e := h
    rw [coerceBool_of_text] at hCoerce
    split at hCoerce
    · cases hCoerce
    · split at hCoerce
      · cases hCoerce
      · exact .inr ⟨.boolean, (Except.error.inj hCoerce).symm⟩
  | uuid =>
    have hCoerce : coerceUuid name (.text s) = .error e := h
    unfold coerceUuid at hCoerce
    dsimp only at hCoerce
    split at hCoerce
    · cases hCoerce
    · exact .inl (Except.error.inj hCoerce).symm
  | integer =>
    have hCoerce : coerceInt name (.text s) = .error e := h
    rw [coerceInt_of_text] at hCoerce
    exact .inr ⟨.number, eq_of_orRefuse_eq_error hCoerce⟩
  | double =>
    have hCoerce : coerceDouble name (.text s) = .error e := h
    rw [coerceDouble_of_text] at hCoerce
    exact .inr ⟨.number, eq_of_orRefuse_eq_error hCoerce⟩
  | decimal =>
    have hCoerce : coerceDecimal name (.text s) = .error e := h
    rw [coerceDecimal_of_text] at hCoerce
    exact .inr ⟨.number, eq_of_orRefuse_eq_error hCoerce⟩
  | date =>
    have hCoerce : coerceDate name (.text s) = .error e := h
    rw [coerceDate_of_text] at hCoerce
    exact .inr ⟨.date, eq_of_orRefuse_eq_error hCoerce⟩
  | dateTime zoned =>
    have hCoerce : coerceDateTime name zoned (.text s) = .error e := h
    rw [coerceDateTime_of_text] at hCoerce
    exact .inr ⟨.dateTime, eq_of_orRefuse_eq_error hCoerce⟩
  | text | document | enumeration | other => cases h

/-- Values that come out the same as a text are taken like it. -/
theorem takesAlike_of_eq {c : Column} {v : Value} {s : String}
    (h : c.coerce v = c.coerce (.text s)) : c.TakesAlike v (.text s) := by
  cases hText : c.coerce (.text s) with
  | ok r => exact .ok (h.trans hText) hText
  | error e =>
    have hRefusal := isRefusal_of_coerce_text hText
    exact .error (h.trans hText) hText hRefusal hRefusal

/-! Numbers are read as their numerals. Only zero does not count for some of the columns, and there it
is read as no text. -/

theorem coerceDecimal_int (column : String) (n : Int) :
    coerceDecimal column (.int n) = coerceDecimal column (.text (intText n)) := rfl

theorem coerceUuid_int (column : String) (n : Int) :
    coerceUuid column (.int n) = coerceUuid column (.text (intText n)) := by
  unfold coerceUuid
  dsimp only
  rw [Value.display_int, Value.display_text]

theorem coerceBool_int (column : String) {n : Int} (h : n ≠ 0) :
    coerceBool column (.int n) = coerceBool column (.text (intText n)) := by
  unfold coerceBool
  dsimp only
  rw [Value.displayOrEmpty_int h, Value.displayOrEmpty_text]

theorem coerceDate_int (column : String) (n : Int) :
    coerceDate column (.int n) = coerceDate column (.text (intText n)) := by
  unfold coerceDate
  dsimp only
  by_cases h : n = 0
  · -- neither no text nor the numeral is a day
    subst h
    have hEmpty : hasTime (trim (Value.int 0).displayOrEmpty).toList = false ∧
        Calendar.Iso.readDate? (trim (Value.int 0).displayOrEmpty).toList = none := by
      decide
    have hNumeral : hasTime (trim (Value.text (intText 0)).displayOrEmpty).toList = false ∧
        Calendar.Iso.readDate? (trim (Value.text (intText 0)).displayOrEmpty).toList = none := by
      decide
    rw [hEmpty.1, hEmpty.2, hNumeral.1, hNumeral.2]
    rfl
  · rw [Value.displayOrEmpty_int h, Value.displayOrEmpty_text]

theorem coerceDateTime_int (column : String) (zoned : Bool) (n : Int) :
    coerceDateTime column zoned (.int n) = coerceDateTime column zoned (.text (intText n)) := by
  unfold coerceDateTime
  dsimp only
  by_cases h : n = 0
  · subst h
    have hEmpty : dateTimeOfText? (trim (Value.int 0).displayOrEmpty).toList = none := by
      decide
    have hNumeral :
        dateTimeOfText? (trim (Value.text (intText 0)).displayOrEmpty).toList = none := by
      decide
    rw [hEmpty, hNumeral]
  · rw [Value.displayOrEmpty_int h, Value.displayOrEmpty_text]

/-- Everywhere else an integer is taken as its numeral is. -/
theorem coerce_int {c : Column} {n : Int} (hFits : n.natAbs < 2 ^ 63)
    (hTyped : c.kind.isOpen = false) (hNoDouble : c.kind ≠ .double)
    (hCounts : ¬(c.kind = .boolean ∧ n = 0)) :
    c.coerce (.int n) = c.coerce (.text (intText n)) := by
  obtain ⟨name, kind⟩ := c
  cases kind with simp only [coerce]
  | boolean =>
    have hNonzero : n ≠ 0 := fun h => hCounts ⟨rfl, h⟩
    exact coerceBool_int name hNonzero
  | integer =>
    have hShort := Number.length_natChars_le_maxDigits hFits
    exact (coerceInt_intText name hShort).symm
  | double => exact absurd rfl hNoDouble
  | decimal => exact coerceDecimal_int name n
  | date => exact coerceDate_int name n
  | dateTime zoned => exact coerceDateTime_int name zoned n
  | uuid => exact coerceUuid_int name n
  | text => rfl
  | document | enumeration | other => cases hTyped

/-- A column of booleans refuses zero, and its numeral stands for false there. -/
theorem coerce_zero (name : String) :
    (Column.mk name .boolean).coerce (.int 0) = .error (.invalidArgument name .boolean) ∧
      (Column.mk name .boolean).coerce (.text (intText 0)) = .ok (.bool false) := by
  have hEmpty : trueWords.contains (Text.lower (trim (Value.int 0).displayOrEmpty)) = false ∧
      falseWords.contains (Text.lower (trim (Value.int 0).displayOrEmpty)) = false := by
    decide
  have hNumeral : trueWords.contains (Text.lower (trim (intText 0))) = false ∧
      falseWords.contains (Text.lower (trim (intText 0))) = true := by
    decide
  constructor
  · show coerceBool name (.int 0) = .error (.invalidArgument name .boolean)
    unfold coerceBool
    dsimp only
    rw [hEmpty.1, hEmpty.2]
    rfl
  · show coerceBool name (.text (intText 0)) = .ok (.bool false)
    rw [coerceBool_of_text, hNumeral.1, hNumeral.2]
    rfl

theorem not_takesAlike_zero (name : String) :
    ¬(Column.mk name .boolean).TakesAlike (.int 0) (.text (intText 0)) := by
  obtain ⟨hRefused, hTaken⟩ := coerce_zero name
  intro hAlike
  cases hAlike with
  | ok hFirst =>
    rw [hRefused] at hFirst
    cases hFirst
  | error _ hSecond =>
    rw [hTaken] at hSecond
    cases hSecond

/-- **An integer and its numeral are taken alike** by every typed column but one of doubles, as the
same value or not at all, except for zero in a column of booleans: there the numeral stands for
false, and the integer is refused. -/
theorem integers_are_read_as_text_iff (c : Column) {n : Int} (hFits : n.natAbs < 2 ^ 63)
    (hTyped : c.kind.isOpen = false) (hNoDouble : c.kind ≠ .double) :
    c.TakesAlike (.int n) (.text (intText n)) ↔ ¬(c.kind = .boolean ∧ n = 0) := by
  constructor
  · rintro hAlike ⟨hBoolean, rfl⟩
    obtain ⟨name, kind⟩ := c
    obtain rfl : kind = .boolean := hBoolean
    exact not_takesAlike_zero name hAlike
  · intro hCounts
    exact takesAlike_of_eq (coerce_int hFits hTyped hNoDouble hCounts)

/-- A day as an integer. -/
theorem integers_are_read_as_text_iff_leapDay :
    (20240229 : Int).natAbs < 2 ^ 63 ∧ ColumnKind.date.isOpen = false ∧ ColumnKind.date ≠ .double ∧
      (Column.mk "sold_on" .date).TakesAlike (.int 20240229) (.text (intText 20240229)) :=
  ⟨by decide, rfl, nofun,
    (integers_are_read_as_text_iff ⟨"sold_on", .date⟩ (by decide) rfl nofun).mpr nofun⟩

/-- Zero does not say which products are meant, those that are active or the others, and its numeral
does. -/
theorem zero_is_no_boolean :
    (Column.mk "active" .boolean).coerce (.int 0) =
        .error (.invalidArgument "active" .boolean) ∧
      (Column.mk "active" .boolean).coerce (.text (intText 0)) = .ok (.bool false) ∧
      ¬(Column.mk "active" .boolean).TakesAlike (.int 0) (.text (intText 0)) := by
  obtain ⟨hRefused, hTaken⟩ := coerce_zero "active"
  exact ⟨hRefused, hTaken, not_takesAlike_zero "active"⟩

end Column

end Winnow
