import Winnow.Proofs.Filter.Complement
import Winnow.Proofs.Filter.Period

/-!
# Winnow.Proofs.Filter.Days — what a period selects of days

On a column of days a period covers its days exactly. Its bounds name a time of the day, as they do
for every column, and the column drops it: they are read as the first day of the first fragment and
as the last day of the last one (`coerce_days`). So nothing is lost at the end of a period, as it is
among date-times, and a single fragment selects the days that lie in it.

Bounds are refused for two reasons: there are not one or two pieces, or one of them has the form of a
month and a number that no month of a year has (`Period.bounds_eq_error_iff`). Main statement:
`periods_cover_days`.
-/

namespace Winnow

/-! ## Days in a column -/

namespace Column

variable {c : Column} {x : Row} {d e : Date}

/-- Cells that hold days stand to days as these do to each other. -/
theorem place?_date (hKind : c.kind = .date) (hCell : x.cell c.name = .value (.date d)) :
    c.place? (.date e) x = some (d.compare e) := by
  have hStored : (x.cell c.name).stored = .text d.text := by
    rw [hCell]
    rfl
  have hCompared : Condition.compared c (.date e) = .text e.text := by
    rw [Condition.compared, hKind]
    rfl
  rw [place?, hStored, hCompared, hKind, ← Date.compare_text]
  rfl

end Column

namespace Filter

namespace Fragment

/-- Does the day lie from the first day of one fragment to the last day of another? -/
def Spans (x y : Fragment) (d : Date) : Prop := x.first.compare d ≠ .gt ∧ d.compare y.last ≠ .gt

end Fragment

/-- The time of the day is dropped from the bounds of fragments. -/
theorem coerce_days (name : String) (x y : Fragment) :
    (Column.mk name .date).coerce (.text (x.first.text ++ " 00:00:00")) = .ok (.date x.first) ∧
      (Column.mk name .date).coerce (.text (y.last.text ++ " 23:59:59")) = .ok (.date y.last) := by
  have hDay (d : Date) {time : TimeOfDay} {clock : String} (h : time.text = clock) :
      (Column.mk name .date).coerce (.text (d.text ++ (" " ++ clock))) = .ok (.date d) := by
    simp only [Column.coerce]
    rw [clock_eq_textWith d h, Column.coerceDate_textWith (c := ' ') rfl (.inr rfl)]
  have hLower := hDay x.first text_midnight
  have hUpper := hDay y.last text_lastSecond
  exact ⟨hLower, hUpper⟩

/-- **A day passes a period** if it lies between the days of its fragments. -/
theorem passes_between_iff {c : Column} {v : Value} {x y : Fragment} {r : Row} {d : Date}
    (hKind : c.kind = .date) (hSpells : Spells v x y) (hCell : r.cell c.name = .value (.date d)) :
    c.Passes .between v r ↔ x.Spans y d := by
  obtain ⟨name, kind⟩ := c
  cases hKind
  obtain ⟨hLower, hUpper⟩ := coerce_days name x y
  have hGreater (o : Ordering) : Comparison.greaterEqual.holds o.swap = true ↔ o ≠ .gt := by
    cases o <;> decide
  have hLess (o : Ordering) : Comparison.lessEqual.holds o = true ↔ o ≠ .gt := by
    cases o <;> decide
  have hFirst : Column.Meets ⟨name, .date⟩ .greaterEqual (.text (x.first.text ++ " 00:00:00")) r ↔
      x.first.compare d ≠ .gt := by
    rw [Column.meets_iff_of_place hLower (Column.place?_date rfl hCell), ← Date.compare_swap, hGreater]
  have hLast : Column.Meets ⟨name, .date⟩ .lessEqual (.text (y.last.text ++ " 23:59:59")) r ↔
      d.compare y.last ≠ .gt := by
    rw [Column.meets_iff_of_place hUpper (Column.place?_date rfl hCell), hLess]
  rw [Fragment.Spans, ← hFirst, ← hLast]
  simp [Column.Passes, bounds_of_spells hSpells]

/-- A period is not refused on a column of days, and the store answers. -/
theorem exists_selects_days {o : Options} {db : Database} {m : Model} {key v : Value} {c : Column}
    {x y : Fragment} (hKey : o.Reaches db.schema m key [] m c) (hKind : c.kind = .date)
    (hSpells : Spells v x y) (dialect : String) :
    ∃ rows, o.Selects db m dialect key .between v rows := by
  have hField : ¬ o.IsTerm (key, .mapping [(.text Operator.between.wireName, v)]) :=
    Bool.eq_false_iff.mp hKey.field
  have hOperator := operatorOf_wireName .between
  obtain ⟨name, kind⟩ := c
  cases hKind
  have hCondition : Condition.ofCalls db.schema dialect m
      (o.calls dialect (.mapping [(key, .mapping [(.text Operator.between.wireName, v)])])) =
        .ok [.between ⟨name, .date⟩ (.date x.first) (.date y.last)] := by
    have hColumn : m.column? name = some ⟨name, .date⟩ := hKey.column
    obtain ⟨hLower, hUpper⟩ := coerce_days name x y
    rw [calls_period hKey.edits hField hKey.read hOperator hSpells]
    simp [Condition.ofCalls, Condition.ofCall?, Condition.column, hColumn, hLower, hUpper, bind,
      Except.bind, pure, Except.pure]
  have hRun := (Selection.callAll_eq_iff (s := Selection.ofModel m dialect)
    Options.isFilter_of_mem_calls rfl).mpr ⟨_, hCondition, rfl⟩
  exact ⟨_, _, _, _, rfl, hOperator, hRun, all_between m dialect rfl rfl⟩

namespace Period

/-! ## Bounds that are refused -/

/-- Has the text the form of a month, with a number that no month of a year has? -/
def IsOutOfYear (fragment : String) : Prop :=
  ∃ year a b, fragment.toList = year ++ ['-', a, b] ∧ year.length = 4 ∧
    (∀ c ∈ year, Text.isDecimalDigit c = true) ∧ Text.isDecimalDigit a = true ∧
    Text.isDecimalDigit b = true ∧ (digitsNumber [a, b] < 1 ∨ 12 < digitsNumber [a, b])

theorem isOutOfYear_iff (fragment : String) :
    IsOutOfYear fragment ↔ ∃ y m, month? fragment.toList = some (y, m) ∧ (m < 1 ∨ 12 < m) := by
  constructor
  · rintro ⟨year, a, b, hText, hLength, hYear, ha, hb, hMonth⟩
    exact ⟨_, _, month?_eq_some_iff.mpr ⟨year, a, b, hText, hLength, hYear, ha, hb, rfl, rfl⟩, hMonth⟩
  · rintro ⟨y, m, hRead, hMonth⟩
    obtain ⟨year, a, b, hText, hLength, hYear, ha, hb, -, rfl⟩ := month?_eq_some_iff.mp hRead
    exact ⟨year, a, b, hText, hLength, hYear, ha, hb, hMonth⟩

theorem bound_of_isOutOfYear {fragment : String} (h : IsOutOfYear fragment) (upper : Bool) :
    bound upper fragment = .error (.invalidMonth fragment) := by
  obtain ⟨y, m, hRead, hMonth⟩ := (isOutOfYear_iff fragment).mp h
  have hGuard : (decide (m < 1) || decide (12 < m)) = true := by simpa using hMonth
  simp only [bound, hRead, hGuard]
  rfl

/-- Every other fragment bounds. -/
theorem exists_bound {fragment : String} (h : ¬ IsOutOfYear fragment) (upper : Bool) :
    ∃ s, bound upper fragment = .ok s := by
  rw [isOutOfYear_iff] at h
  cases hRead : month? fragment.toList with
  | none => cases hDay : isDay fragment.toList <;> simp [bound, hRead, hDay]
  | some month =>
    have hInYear : ¬ (month.2 < 1 ∨ 12 < month.2) := fun hOut => h ⟨_, _, hRead, hOut⟩
    have hGuard : (decide (month.2 < 1) || decide (12 < month.2)) = false := by simpa using hInYear
    simp only [bound, hRead, hGuard]
    cases upper <;> exact ⟨_, rfl⟩

/-- Two pieces bound unless one of them is a month of no year, and the first that is one is told. -/
theorem pair_cases {v a b : Value} (hForm : bounds v = (do
    let lower ← bound false a.display
    return (lower, ← bound true b.display))) :
    (∃ p ∈ [a, b], IsOutOfYear p.display ∧ bounds v = .error (.invalidMonth p.display)) ∨
      (∀ p ∈ [a, b], ¬ IsOutOfYear p.display) ∧ ∃ b, bounds v = .ok b := by
  by_cases hLower : IsOutOfYear a.display
  · refine .inl ⟨a, List.mem_cons_self, hLower, ?_⟩
    rw [hForm, bound_of_isOutOfYear hLower]
    rfl
  · obtain ⟨lower, hl⟩ := exists_bound hLower false
    by_cases hUpper : IsOutOfYear b.display
    · refine .inl ⟨b, List.mem_cons_of_mem a List.mem_cons_self, hUpper, ?_⟩
      rw [hForm, hl, bound_of_isOutOfYear hUpper]
      rfl
    · obtain ⟨upper, hu⟩ := exists_bound hUpper true
      refine .inr ⟨by simp [hLower, hUpper], (lower, upper), ?_⟩
      rw [hForm, hl, hu]
      rfl

/-- **When an argument has no bounds**, and what is told: it has none or more than two pieces, or one
of one or two pieces is a month of no year. -/
theorem bounds_cases (v : Value) :
    (v.splitList.length = 0 ∨ 2 < v.splitList.length) ∧
        bounds v = .error (.invalidPeriod v.display) ∨
      (∃ p ∈ v.splitList, IsOutOfYear p.display ∧ bounds v = .error (.invalidMonth p.display)) ∨
      ¬ (v.splitList.length = 0 ∨ 2 < v.splitList.length) ∧
        (∀ p ∈ v.splitList, ¬ IsOutOfYear p.display) ∧ ∃ b, bounds v = .ok b := by
  match hItems : v.splitList with
  | [] =>
    refine .inl ⟨.inl rfl, ?_⟩
    simp only [bounds, hItems]
  | [a] =>
    -- the piece is the lower bound and the upper one
    have hPair := pair_cases (v := v) (a := a) (b := a) (by simp only [bounds, hItems])
    simp only [List.mem_cons, List.not_mem_nil, or_false, or_self] at hPair
    simpa using hPair
  | [a, b] =>
    have hPair := pair_cases (v := v) (a := a) (b := b) (by simp only [bounds, hItems])
    exact .inr (hPair.imp_right fun h => ⟨by simp, h⟩)
  | a :: b :: c :: rest =>
    refine .inl ⟨.inr (by simp), ?_⟩
    simp only [bounds, hItems]

end Period

/-- **Periods cover days exactly.** Let the pieces of an argument be months or days, two of them or
one that stands for both, as they are in a text with or without a comma and in a list. Its bounds
are read by every column of days as the first day of the first one and the last day of the last one.
A day lies between these two exactly if it lies in the month, or is the day, where there is one
fragment only. The operator of periods is not refused on a column of days, the store answers, and a
row with a day there is selected exactly if the day lies between.

An argument has no bounds exactly if it has no piece or more than two, or if one of them is a month
of no year; and that is what is told. -/
theorem periods_cover_days :
    (∀ (v : Value) (x y : Fragment), IsPeriod v x y → Spells v x y) ∧
    (∀ (v : Value) (x y : Fragment), Spells v x y →
      (∃ lower upper, Period.bounds v = .ok (lower, upper) ∧ ∀ name,
        (Column.mk name .date).coerce (.text lower) = .ok (.date x.first) ∧
          (Column.mk name .date).coerce (.text upper) = .ok (.date y.last)) ∧
      (x = y → ∀ d, x.Spans y d ↔ x.Covers d) ∧
      ∀ (o : Options) (db : Database) (m : Model) (dialect : String) (key : Value) (c : Column),
        o.Reaches db.schema m key [] m c → c.kind = .date →
        ∃ rows, o.Selects db m dialect key .between v rows ∧
          ∀ r ∈ db.rows m, ∀ d, r.cell c.name = .value (.date d) → (r ∈ rows ↔ x.Spans y d)) ∧
    ∀ v : Value,
      ((∃ e, Period.bounds v = .error e) ↔ v.splitList.length = 0 ∨ 2 < v.splitList.length ∨
        ∃ p ∈ v.splitList, Period.IsOutOfYear p.display) ∧
      ∀ e, Period.bounds v = .error e →
        e = .invalidPeriod v.display ∨ ∃ p ∈ v.splitList, e = .invalidMonth p.display := by
  refine ⟨fun _ _ _ => spells_of_isPeriod, fun v x y hSpells => ⟨?_, ?_, ?_⟩, fun v => ?_⟩
  · exact ⟨_, _, bounds_of_spells hSpells, fun name => coerce_days name x y⟩
  · rintro rfl d
    exact (x.covers_iff d).symm
  · intro o db m dialect key c hKey hKind
    obtain ⟨rows, hRows⟩ := exists_selects_days hKey hKind hSpells dialect
    refine ⟨rows, hRows, fun r hRow d hCell => ?_⟩
    have hSays : saysNothing .between v = false :=
      (Bool.or_false _).trans (isBlank_of_spells hSpells)
    rw [hRows.mem_iff_passes hKey rfl hSays, and_iff_right hRow,
      passes_between_iff hKind hSpells hCell]
  · -- each case says whether there are bounds, and what is told if there are none
    rcases Period.bounds_cases v with ⟨hLength, hBounds⟩ | ⟨p, hp, hOut, hBounds⟩ |
      ⟨hLength, hIn, b, hBounds⟩
    · refine ⟨iff_of_true ⟨_, hBounds⟩ (hLength.imp_right .inl), fun e h => .inl ?_⟩
      exact Except.error.inj (h.symm.trans hBounds)
    · refine ⟨iff_of_true ⟨_, hBounds⟩ (.inr (.inr ⟨p, hp, hOut⟩)), fun e h => .inr ⟨p, hp, ?_⟩⟩
      exact Except.error.inj (h.symm.trans hBounds)
    · rw [hBounds]
      refine ⟨iff_of_false nofun fun h => ?_, nofun⟩
      rcases h with hNone | hMany | ⟨p, hp, hOut⟩
      · exact hLength (.inl hNone)
      · exact hLength (.inr hMany)
      · exact hIn p hp hOut

/-- A day of a leap year. -/
def leapDay : Fragment := .day ⟨2024, 2, 29, by decide⟩

/-- The month of that day. -/
def february : Fragment := .month 2024 2 (by decide)

/-- The month after it. -/
def march : Fragment := .month 2024 3 (by decide)

theorem reaches_due : Options.default.Reaches Sample.shop.schema Sample.ticket
    (.text "due") [] Sample.ticket ⟨"due", .date⟩ where
  edits := rfl
  field := by decide
  read := FieldPath.read_eq_ok_iff.mpr (by decide)
  follow := rfl
  column := rfl
  ordered := rfl

/-- A day and a month with a blank between them, a month alone, and arguments without bounds. -/
theorem periods_cover_days_leapDay :
    (Spells (.text "2024-02-29, 2024-03") leapDay march ∧
      ∃ rows, Options.default.Selects Sample.shop Sample.ticket "sqlite" (.text "due") .between
          (.text "2024-02-29, 2024-03") rows ∧
        ∀ r ∈ Sample.shop.rows Sample.ticket, ∀ d, r.cell "due" = .value (.date d) →
          (r ∈ rows ↔ leapDay.Spans march d)) ∧
    (Spells (.text "2024-02") february february ∧
      ∀ d, february.Spans february d ↔ d.year = 2024 ∧ d.month = 2) ∧
    (Value.text " , ").splitList.length = 0 ∧ (∃ e, Period.bounds (.text " , ") = .error e) ∧
    Period.IsOutOfYear "2024-13" ∧ ∃ e, Period.bounds (.text "2024-13") = .error e := by
  have hPair : Spells (.text "2024-02-29, 2024-03") leapDay march := .inl (by decide)
  have hText : february.text = "2024-02" := by decide
  have hThirteenth : Period.IsOutOfYear "2024-13" :=
    ⟨['2', '0', '2', '4'], '1', '3', by decide, rfl, List.all_eq_true.mp rfl, rfl, rfl, by decide⟩
  have hPieces : (Value.text "2024-13").splitList = [.text "2024-13"] := by
    have hTexts : Text.pieces "2024-13" = ["2024-13"] := by decide
    rw [Value.splitList_text, hTexts]
    rfl
  obtain ⟨hPeriods, hCover, hRefused⟩ := periods_cover_days
  have hSingle : Spells (.text "2024-02") february february :=
    hText ▸ hPeriods _ _ _ (.single february)
  obtain ⟨-, -, hRows⟩ := hCover _ _ _ hPair
  obtain ⟨-, hMonth, -⟩ := hCover _ _ _ hSingle
  have hNone : (Value.text " , ").splitList.length = 0 := by decide
  refine ⟨⟨hPair, hRows _ Sample.shop _ "sqlite" _ _ reaches_due rfl⟩, ⟨hSingle, hMonth rfl⟩, hNone,
    (hRefused _).1.mpr (.inl hNone), hThirteenth, (hRefused _).1.mpr (.inr (.inr ?_))⟩
  rw [hPieces]
  exact ⟨_, List.mem_cons_self, hThirteenth⟩

end Filter

end Winnow
