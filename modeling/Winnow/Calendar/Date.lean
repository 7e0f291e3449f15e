import Winnow.Text.Digit

/-!
# Winnow.Calendar.Date — days of the Gregorian calendar

A `Date` is a day of one of the years 1 to 9999, of the Gregorian calendar without a beginning. A
day can also be named by its place in its year and by its place in a week of the year, where a
year's first week is the one that holds the fourth of January and weeks begin on Monday.
-/

namespace Winnow

namespace Calendar

/-- Is the year a leap year? Year zero is one. -/
def isLeap (year : Nat) : Bool := year % 4 == 0 && (year % 100 != 0 || year % 400 == 0)

/-- The number of days of a month; none for a number that is no month. -/
def daysInMonth (year month : Nat) : Nat :=
  match month with
  | 2 => if isLeap year then 29 else 28
  | 4 | 6 | 9 | 11 => 30
  | 1 | 3 | 5 | 7 | 8 | 10 | 12 => 31
  | _ => 0

/-- Do the three numbers name a day of the years 1 to 9999? -/
def IsDay (year month day : Nat) : Prop :=
  1 ≤ year ∧ year ≤ 9999 ∧ 1 ≤ day ∧ day ≤ daysInMonth year month

instance (y m d : Nat) : Decidable (IsDay y m d) := inferInstanceAs (Decidable (_ ∧ _))

end Calendar

/-- A day of the years 1 to 9999. Months count from 1, and so do the days of a month. -/
structure Date where
  year : Nat
  month : Nat
  day : Nat
  isDay : Calendar.IsDay year month day
  deriving DecidableEq

namespace Date

open Calendar

/-- The day with these three numbers, if there is one. -/
def of? (year month day : Nat) : Option Date :=
  if h : IsDay year month day then some ⟨year, month, day, h⟩ else none

/-- The ISO form: year, month and day between dashes. -/
def text (d : Date) : String :=
  Text.paddedNat 4 d.year ++ "-" ++ Text.paddedNat 2 d.month ++ "-" ++ Text.paddedNat 2 d.day

/-- The number of days of a year. -/
def yearLength (year : Nat) : Nat := if isLeap year then 366 else 365

/-- The number of days before a year, counted from the first of January of year 1. -/
def daysBefore (year : Nat) : Nat :=
  let y := year - 1
  y * 365 + y / 4 - y / 100 + y / 400

/-- The number of days of a year before a month. -/
def daysBeforeMonth (year : Nat) : Nat → Nat
  | 0 => 0
  | month + 1 => daysBeforeMonth year month + daysInMonth year month

/-- The number of a day, counted from the first of January of year 1, which is day 1. -/
def number (d : Date) : Nat := daysBefore d.year + daysBeforeMonth d.year d.month + d.day

/-- The first day of all. -/
def first : Date := ⟨1, 1, 1, by decide⟩

/-- The last day of all. -/
def last : Date := ⟨9999, 12, 31, by decide⟩

instance : Inhabited Date := ⟨first⟩

/-- The day `offset` days after the first of a month, sought in that month and the `months` months
that follow it. -/
def inMonths? (year : Nat) : Nat → Nat → Nat → Option Date
  | 0, _, _ => none
  | months + 1, month, offset =>
    let days := daysInMonth year month
    if offset < days then of? year month (offset + 1)
    else inMonths? year months (month + 1) (offset - days)

/-- The day `offset` days after the first of January. -/
def inYear? (year offset : Nat) : Option Date := inMonths? year 12 1 offset

/-- The day of the week of the first of January; zero is Monday. -/
def firstWeekday (year : Nat) : Nat := daysBefore year % 7

/-- The number of weeks of a year. -/
def weeksInYear (year : Nat) : Nat :=
  let w := firstWeekday year
  if w = 3 || (w = 2 && isLeap year) then 53 else 52

/-- The day with a place in a week of a year, if the year has the week and the day lies in the years
1 to 9999. -/
def ofWeek? (year week weekday : Nat) : Option Date :=
  if year < 1 || week < 1 || weeksInYear year < week || weekday < 1 || 7 < weekday then none
  else
    let w := firstWeekday year
    let days : Int := ((week - 1) * 7 + (weekday - 1) : Nat)
    let offset : Int := days + (if w ≤ 3 then -(w : Int) else 7 - w)
    if offset < 0 then inYear? (year - 1) (offset + yearLength (year - 1)).toNat
    else if offset.toNat < yearLength year then inYear? year offset.toNat
    else inYear? (year + 1) (offset.toNat - yearLength year)

/-- Chronological order of two days. -/
def compare (a b : Date) : Ordering :=
  (Ord.compare a.year b.year).then ((Ord.compare a.month b.month).then (Ord.compare a.day b.day))

theorem of?_self (d : Date) : of? d.year d.month d.day = some d := by
  simp [of?, d.isDay]

end Date

end Winnow
