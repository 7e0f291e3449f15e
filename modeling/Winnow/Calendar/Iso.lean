import Winnow.Calendar.DateTime
import Winnow.Number.Power
import Winnow.Text.Blank

/-!
# Winnow.Calendar.Iso — dates and date-times in ISO text

A date is written `YYYY-MM-DD` or `YYYYMMDD`, or by weeks as `YYYY-Www-D`, `YYYYWwwD`, and without
its last digit for the Monday. A date-time is a date, one separator of any kind, a time and maybe an
offset. Times are `HH`, `HH:MM`, `HH:MM:SS`, the same without colons, and the last with a fraction,
of which six digits count. Offsets are written as times are, after a sign; `Z` is the offset of
zero. All digits are those of ASCII.
-/

namespace Winnow.Calendar.Iso

/-- The number that the first `n` characters spell, and the rest, if all of them are digits. -/
def takeDigits? (n : Nat) (cs : List Char) : Option (Nat × List Char) :=
  let ds := cs.take n
  if ds.length = n && ds.all Char.isDigit then
    some (ds.foldl (fun v c => v * 10 + (c.toNat - 48)) 0, cs.drop n)
  else none

/-- The rest of a text after a dash. -/
def afterDash? : List Char → Option (List Char)
  | '-' :: rest => some rest
  | _ => none

/-- A week, maybe with a day, in what follows the `W`. -/
def readWeek? (year : Nat) (dashed : Bool) (cs : List Char) : Option Date := do
  let (week, rest) ← takeDigits? 2 cs
  if rest.isEmpty then Date.ofWeek? year week 1
  else
    let rest ← if dashed then afterDash? rest else some rest
    let (weekday, _) ← takeDigits? 1 rest
    Date.ofWeek? year week weekday

/-- Month and day in what follows the year. -/
def readMonthDay? (year : Nat) (dashed : Bool) (cs : List Char) : Option Date := do
  let (month, rest) ← takeDigits? 2 cs
  let rest ← if dashed then afterDash? rest else some rest
  let (day, _) ← takeDigits? 2 rest
  Date.of? year month day

/-- A date in any of its forms, at the begin of a text. What follows its last digit is not looked
at. -/
def readDay? (cs : List Char) : Option Date := do
  let (year, rest) ← takeDigits? 4 cs
  let (dashed, rest) := match rest with
    | '-' :: more => (true, more)
    | more => (false, more)
  match rest with
  | 'W' :: more => readWeek? year dashed more
  | more => readMonthDay? year dashed more

/-- The number of bytes of a text in UTF-8. -/
def byteLength (cs : List Char) : Nat := cs.foldl (fun n c => n + c.utf8Size) 0

/-- The date a text spells. A text of any length but seven, eight and ten bytes spells none. -/
def readDate? (cs : List Char) : Option Date :=
  let n := byteLength cs
  if n = 7 || n = 8 || n = 10 then readDay? cs else none

/-! ## Times -/

/-- The numbers of a time or of an offset, not yet held against their ranges. -/
structure Fields where
  hour : Nat
  minute : Nat
  second : Nat
  micro : Nat
  deriving DecidableEq

/-- Does more text follow? A NUL ends it. -/
def goesOn (cs : List Char) : Bool := cs.head?.any (· != '\x00')

/-- Where reading of the pairs of digits stopped: at the end of the part, maybe with text left over,
or before the digits of a fraction. -/
inductive Stop where
  | ended (leftOver : Bool)
  | atFraction (rest : List Char)

/-- Up to `n` pairs of digits at the begin of `part`, which is followed by `after`. The first
separator decides whether there are colons. One character of ASCII that ends the part is left over,
whatever it is. -/
def readPairs? (after : List Char) : Nat → Option Bool → List Char → Option (List Nat × Stop)
  | 0, _, part => some ([], .atFraction part)
  | n + 1, colons?, part => do
    let (v, rest) ← takeDigits? 2 part
    match rest with
    | [] => some ([v], .ended (goesOn after))
    | c :: more =>
      let colons := colons?.getD (c == ':')
      if more.isEmpty && c.toNat < 0x80 then some ([v], .ended (c != '\x00'))
      else if colons && c == ':' then
        let (vs, stop) ← readPairs? after n (some colons) more
        some (v :: vs, stop)
      else if c == '.' || c == ',' then some ([v], .atFraction more)
      else if !colons then
        let (vs, stop) ← readPairs? after n (some colons) rest
        some (v :: vs, stop)
      else none

/-- Microseconds from the digits of a fraction, of which six count; the flag says that text is left
over. -/
def readFraction? (part after : List Char) : Option (Nat × Bool) := do
  let n := min 6 part.length
  let (v, rest) ← takeDigits? n part
  let rest := rest.dropWhile Char.isDigit
  some (v * Number.pow10 (6 - n), goesOn (if rest.isEmpty then after else rest))

/-- The numbers at the begin of a part that is followed by `after`; the flag says that text is left
over. -/
def readFields? (part after : List Char) : Option (Fields × Bool) := do
  let (vs, stop) ← readPairs? after 3 none part
  let (micro, leftOver) ← match stop with
    | .ended leftOver => some (0, leftOver)
    | .atFraction rest => readFraction? rest after
  some (⟨vs[0]?.getD 0, vs[1]?.getD 0, vs[2]?.getD 0, micro⟩, leftOver)

/-- Does the character begin an offset? -/
def beginsOffset (c : Char) : Bool := c == '+' || c == '-' || c == 'Z'

/-- The seconds of an offset, and its microseconds. Offsets of no whole seconds are zero. -/
def Fields.toOffset? (f : Fields) (west : Bool) : Option Offset :=
  let seconds := f.hour * 3600 + f.minute * 60 + f.second
  if seconds = 0 then some .utc
  else
    let micros : Int := (seconds * 1000000 + f.micro : Nat)
    Offset.of? (if west then -micros else micros)

/-- The offset a text spells, sign included. -/
def readOffset? : List Char → Option Offset
  | 'Z' :: rest => if goesOn rest then none else some .utc
  | sign :: rest => do
    let (f, leftOver) ← readFields? rest []
    if leftOver then none else f.toOffset? (sign == '-')
  | [] => none

/-- The time of day a text spells, and the offset if there is one. Text left over before an offset
is passed over. -/
def readTime? (cs : List Char) : Option (TimeOfDay × Option Offset) := do
  let part := cs.takeWhile (!beginsOffset ·)
  let after := cs.dropWhile (!beginsOffset ·)
  let (f, leftOver) ← readFields? part after
  let offset ←
    if after.isEmpty then (if leftOver then none else some none) else (readOffset? after).map some
  let time ← TimeOfDay.of? f.hour f.minute f.second f.micro
  some (time, offset)

/-! ## Date-times -/

/-- Where the date of a date-time ends. -/
def separatorPlace? (cs : List Char) : Option Nat :=
  let n := cs.length
  if n = 7 then some 7
  else match cs.drop 4 with
    | '-' :: 'W' :: _ =>
      if n < 8 then none
      else if cs[8]? = some '-' then
        if n = 9 then none
        else if n > 10 && cs[10]?.any Char.isDigit then some 8
        else some 10
      else some 8
    | '-' :: _ => some 10
    | 'W' :: _ =>
      let place := 7 + ((cs.drop 7).takeWhile Char.isDigit).length
      if place < 9 then some place else if place % 2 = 0 then some 7 else some 8
    | _ => some 8

/-- The date-time a text spells. A date alone is its midnight. -/
def readDateTime? (cs : List Char) : Option DateTime := do
  let place ← separatorPlace? cs
  let date ← readDay? (cs.take place)
  match cs.drop place with
  | [] => some (.atMidnight date)
  | _ :: rest =>
    let (time, offset) ← readTime? rest
    some ⟨date, time, offset⟩

end Winnow.Calendar.Iso
