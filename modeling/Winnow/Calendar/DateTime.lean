import Winnow.Calendar.Date

/-!
# Winnow.Calendar.DateTime — points of time on a wall clock

A `DateTime` is a day and a time of day to the microsecond, with or without the offset of its zone.
Without an offset it is naive: it says what a clock on the wall shows and not where the wall is.
-/

namespace Winnow

namespace Calendar

/-- Microseconds of a day. -/
def dayMicros : Int := 86400000000

end Calendar

/-- The offset of a zone in microseconds, positive to the east: less than a day to either side. -/
structure Offset where
  micros : Int
  inDay : -Calendar.dayMicros < micros ∧ micros < Calendar.dayMicros
  deriving DecidableEq

namespace Offset

/-- The zone without an offset. -/
def utc : Offset := ⟨0, by decide⟩

instance : Inhabited Offset := ⟨utc⟩

/-- The offset of so many microseconds, if it is less than a day. -/
def of? (micros : Int) : Option Offset :=
  if h : -Calendar.dayMicros < micros ∧ micros < Calendar.dayMicros then some ⟨micros, h⟩ else none

/-- The ISO form: a sign, hours and minutes; seconds only if there are seconds or a fraction, which
has six digits. -/
def text (o : Offset) : String :=
  let n := o.micros.natAbs
  let micro := n % 1000000
  let second := n / 1000000 % 60
  (if o.micros < 0 then "-" else "+") ++ Text.paddedNat 2 (n / 3600000000) ++ ":" ++
    Text.paddedNat 2 (n / 60000000 % 60) ++
    (if second = 0 && micro = 0 then "" else ":" ++ Text.paddedNat 2 second) ++
    (if micro = 0 then "" else "." ++ Text.paddedNat 6 micro)

end Offset

/-- A time of day to the microsecond, without leap seconds. -/
structure TimeOfDay where
  hour : Nat
  minute : Nat
  second : Nat
  micro : Nat
  inRange : hour < 24 ∧ minute < 60 ∧ second < 60 ∧ micro < 1000000
  deriving DecidableEq

namespace TimeOfDay

/-- The begin of a day. -/
def midnight : TimeOfDay := ⟨0, 0, 0, 0, by decide⟩

/-- The last microsecond of a day. -/
def last : TimeOfDay := ⟨23, 59, 59, 999999, by decide⟩

instance : Inhabited TimeOfDay := ⟨midnight⟩

/-- The microseconds since midnight. -/
def micros (t : TimeOfDay) : Nat :=
  ((t.hour * 60 + t.minute) * 60 + t.second) * 1000000 + t.micro

/-- The time of day with these numbers, if there is one. -/
def of? (hour minute second micro : Nat) : Option TimeOfDay :=
  if h : hour < 24 ∧ minute < 60 ∧ second < 60 ∧ micro < 1000000 then
    some ⟨hour, minute, second, micro, h⟩
  else none

/-- Hours, minutes and seconds between colons. -/
def clockText (t : TimeOfDay) : String :=
  Text.paddedNat 2 t.hour ++ ":" ++ Text.paddedNat 2 t.minute ++ ":" ++ Text.paddedNat 2 t.second

/-- The ISO form: six digits of microseconds follow unless there are none. -/
def text (t : TimeOfDay) : String :=
  t.clockText ++ (if t.micro = 0 then "" else "." ++ Text.paddedNat 6 t.micro)

end TimeOfDay

/-- A day and a time of day, with the offset of its zone. A naive date-time has none. -/
structure DateTime where
  date : Date
  time : TimeOfDay
  offset : Option Offset
  deriving DecidableEq, Inhabited

namespace DateTime

/-- The begin of a day, naive. -/
def atMidnight (d : Date) : DateTime := ⟨d, .midnight, none⟩

/-- Is there no offset? -/
def isNaive (t : DateTime) : Bool := t.offset.isNone

/-- The date-time with an offset of zero unless it has an offset. -/
def aware (t : DateTime) : DateTime := { t with offset := some (t.offset.getD .utc) }

/-- The date-time without its offset: what the clock on the wall shows. -/
def wall (t : DateTime) : DateTime := { t with offset := none }

/-- The moment of a date-time with an offset, in microseconds of a clock without one. -/
def moment? (t : DateTime) : Option Int :=
  t.offset.map fun o => (t.date.number : Int) * Calendar.dayMicros + t.time.micros - o.micros

/-- Are both the same moment? Without offsets they must show the same, and one with an offset is
never the same as one without. -/
def sameMoment (a b : DateTime) : Bool :=
  match a.moment?, b.moment? with
  | some m, some n => m == n
  | none, none => a == b
  | _, _ => false

/-- The first date-time of all. -/
def first : DateTime := ⟨.first, .midnight, none⟩

/-- The last date-time of all. -/
def last : DateTime := ⟨.last, .last, none⟩

/-- Date and time with a separator between them, then the offset. -/
def textWith (separator : String) (t : DateTime) : String :=
  t.date.text ++ separator ++ t.time.text ++ (t.offset.map Offset.text).getD ""

/-- The ISO form, with a `T` between date and time. -/
def isoText (t : DateTime) : String := t.textWith "T"

/-- The form with a space between date and time. -/
def spacedText (t : DateTime) : String := t.textWith " "

/-- The form in which date-times are stored: the wall clock with all six digits of microseconds. Its
order is that of the wall clocks. -/
def storedText (t : DateTime) : String :=
  t.date.text ++ " " ++ t.time.clockText ++ "." ++ Text.paddedNat 6 t.time.micro

end DateTime

end Winnow
