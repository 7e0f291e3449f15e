import Winnow.Calendar.Iso
import Winnow.Proofs.Text.Digits

/-!
# Winnow.Proofs.Calendar.RoundTrip — written days and times are read back

Main statements: a day is read back from its ISO form (`Iso.readDate?_text`); a date-time is read
back from day, separator, time and offset as it is `asRead` (`Iso.readDateTime?_textWith`). That is
the date-time itself unless its offset is a fraction of a second, which the reader takes for no
offset at all (`DateTime.asRead_eq_self_iff`).

Each part is written in digits of a fixed width, so each is read by one lemma about such digits with
more text behind them (`takeDigits?_padded`): first the pairs of a time, then times with and without
a fraction, then the offset and the whole.
-/

namespace Winnow

/-! ## What the reader makes of an offset -/

namespace Offset

/-- The offset that is read back: one below a second to either side is none. -/
def asRead (o : Offset) : Offset := if o.micros.natAbs < 1000000 then .utc else o

/-- Is the offset a fraction of a second, but not zero? -/
def IsFraction (o : Offset) : Prop := 0 < o.micros.natAbs ∧ o.micros.natAbs < 1000000

instance (o : Offset) : Decidable o.IsFraction := inferInstanceAs (Decidable (_ ∧ _))

theorem asRead_eq_self_iff (o : Offset) : o.asRead = o ↔ ¬o.IsFraction := by
  obtain ⟨n, hn⟩ := o
  simp only [asRead, IsFraction, utc]
  split
  · simp only [Offset.mk.injEq]
    omega
  · simp only [true_iff]
    omega

end Offset

namespace DateTime

/-- The date-time that is read back. -/
def asRead (t : DateTime) : DateTime := { t with offset := t.offset.map Offset.asRead }

theorem asRead_eq_self_iff (t : DateTime) : t.asRead = t ↔ ∀ o ∈ t.offset, ¬o.IsFraction := by
  obtain ⟨date, time, offset⟩ := t
  cases offset with
  | none => simp [asRead]
  | some o => simp [asRead, Offset.asRead_eq_self_iff]

end DateTime

namespace Calendar

open Text (paddedNat)
open Winnow.Number (pow10)

/-! ## Bounds of the numbers of a day -/

theorem month_le_of_daysInMonth_pos {year month : Nat} (h : 0 < daysInMonth year month) :
    1 ≤ month ∧ month ≤ 12 := by
  unfold daysInMonth at h
  split at h <;> omega

theorem daysInMonth_le (year month : Nat) : daysInMonth year month ≤ 31 := by
  unfold daysInMonth
  split
  · split <;> omega
  all_goals omega

theorem IsDay.month_le {y m d : Nat} (h : IsDay y m d) : 1 ≤ m ∧ m ≤ 12 :=
  month_le_of_daysInMonth_pos (Nat.lt_of_lt_of_le h.2.2.1 h.2.2.2)

theorem IsDay.day_le {y m d : Nat} (h : IsDay y m d) : d ≤ 31 :=
  Nat.le_trans h.2.2.2 (daysInMonth_le y m)

namespace Iso

/-! ## Digits -/

theorem takeDigits?_append {ds rest : List Char} {n : Nat} (hLength : ds.length = n)
    (hDigits : ∀ c ∈ ds, c.isDigit) :
    takeDigits? n (ds ++ rest) = some (Number.digitsValue ds, rest) := by
  have hAll : ds.all Char.isDigit := List.all_eq_true.mpr hDigits
  subst hLength
  simp only [takeDigits?, List.take_left, List.drop_left, hAll]
  rfl

/-- A number in digits of a fixed width, with more text behind it. -/
theorem takeDigits?_padded {width n : Nat} {rest : List Char} (hw : 0 < width)
    (h : n < pow10 width) :
    takeDigits? width ((paddedNat width n).toList ++ rest) = some (n, rest) := by
  rw [takeDigits?_append (Text.length_padded hw h) fun c => Text.isDigit_of_mem_padded,
    Text.digitsValue_padded]

/-- Two digits. -/
def pair (n : Nat) : List Char := (paddedNat 2 n).toList

theorem takeDigits?_pair {n : Nat} {rest : List Char} (h : n < 100) :
    takeDigits? 2 (pair n ++ rest) = some (n, rest) := takeDigits?_padded (by decide) h

/-- Padded digits are at least one, and the first of them is a digit. -/
theorem exists_cons_padded (width n : Nat) :
    ∃ c cs, (paddedNat width n).toList = c :: cs ∧ c.isDigit := by
  have hne : (paddedNat width n).toList ≠ [] := by
    rw [Text.toList_paddedNat]
    exact List.append_ne_nil_of_right_ne_nil _ (Text.natChars_ne_nil n)
  obtain ⟨c, cs, h⟩ := List.exists_cons_of_ne_nil hne
  exact ⟨c, cs, h, Text.isDigit_of_mem_padded (by rw [h]; exact List.mem_cons_self)⟩

/-- The text ends in a digit. -/
def EndsInDigit (cs : List Char) : Prop := ∃ before c, cs = before ++ [c] ∧ c.isDigit

theorem EndsInDigit.append {cs : List Char} (h : EndsInDigit cs) (before : List Char) :
    EndsInDigit (before ++ cs) := by
  obtain ⟨xs, c, rfl, hc⟩ := h
  exact ⟨before ++ xs, c, by simp, hc⟩

theorem EndsInDigit.cons {cs : List Char} (h : EndsInDigit cs) (c : Char) : EndsInDigit (c :: cs) :=
  h.append [c]

theorem EndsInDigit.getLast {cs : List Char} (h : EndsInDigit cs) :
    ∀ c ∈ cs.getLast?, c.isDigit := by
  obtain ⟨xs, c, rfl, hc⟩ := h
  simpa using hc

theorem endsInDigit_padded (width n : Nat) : EndsInDigit (paddedNat width n).toList := by
  obtain ⟨c, cs, h, -⟩ := exists_cons_padded width n
  have hne : (paddedNat width n).toList ≠ [] := by simp [h]
  exact ⟨_, _, (List.dropLast_concat_getLast hne).symm,
    Text.isDigit_of_mem_padded (List.getLast_mem hne)⟩

/-! ## Days -/

theorem toList_dateText (d : Date) :
    d.text.toList = (paddedNat 4 d.year).toList ++ '-' :: (pair d.month ++ '-' :: pair d.day) := by
  simp [Date.text, pair]

theorem head_dateText (d : Date) (rest : List Char) :
    ∀ c ∈ (d.text.toList ++ rest).head?, c.isDigit := by
  obtain ⟨c, cs, h, hc⟩ := exists_cons_padded 4 d.year
  rw [toList_dateText, h]
  rintro x ⟨⟩
  exact hc

theorem endsInDigit_dateText (d : Date) : EndsInDigit d.text.toList := by
  rw [toList_dateText]
  exact ((((endsInDigit_padded 2 d.day).cons '-').append _).cons '-').append _

theorem length_dateText (d : Date) : d.text.toList.length = 10 := by
  have hY : (paddedNat 4 d.year).toList.length = 4 :=
    Text.length_padded (by decide) (Nat.lt_of_le_of_lt d.isDay.2.1 (by decide))
  have hM : (pair d.month).length = 2 :=
    Text.length_padded (by decide) (Nat.lt_of_le_of_lt d.isDay.month_le.2 (by decide))
  have hN : (pair d.day).length = 2 :=
    Text.length_padded (by decide) (Nat.lt_of_le_of_lt d.isDay.day_le (by decide))
  simp [toList_dateText, hY, hM, hN]

/-- A day is read from the begin of a text. -/
theorem readDay?_text (d : Date) (rest : List Char) :
    readDay? (d.text.toList ++ rest) = some d := by
  have hYear : ∀ rest, takeDigits? 4 ((paddedNat 4 d.year).toList ++ rest) = some (d.year, rest) :=
    fun rest => takeDigits?_padded (by decide) (Nat.lt_of_le_of_lt d.isDay.2.1 (by decide))
  have hMonth : ∀ rest, takeDigits? 2 (pair d.month ++ rest) = some (d.month, rest) :=
    fun rest => takeDigits?_pair (Nat.lt_of_le_of_lt d.isDay.month_le.2 (by decide))
  have hDay : takeDigits? 2 (pair d.day ++ rest) = some (d.day, rest) :=
    takeDigits?_pair (Nat.lt_of_le_of_lt d.isDay.day_le (by decide))
  have hMonthDay : readMonthDay? d.year true (pair d.month ++ '-' :: (pair d.day ++ rest))
      = some d := by
    simp [readMonthDay?, hMonth, afterDash?, hDay, Date.of?_self]
  obtain ⟨c, cs, hcs, hc⟩ := exists_cons_padded 2 d.month
  have hNoWeek : c ≠ 'W' := by
    rintro rfl
    exact absurd hc (by decide)
  simp only [toList_dateText, List.append_assoc, List.cons_append, readDay?, hYear,
    Option.bind_eq_bind, Option.bind_some]
  rw [← hMonthDay]
  simp [pair, hcs, hNoWeek]

theorem mem_dateText {d : Date} {c : Char} (h : c ∈ d.text.toList) : c.isDigit ∨ c = '-' := by
  simp only [toList_dateText, pair, List.mem_append, List.mem_cons] at h
  rcases h with h | rfl | h | rfl | h
  · exact .inl (Text.isDigit_of_mem_padded h)
  · exact .inr rfl
  · exact .inl (Text.isDigit_of_mem_padded h)
  · exact .inr rfl
  · exact .inl (Text.isDigit_of_mem_padded h)

theorem byteLength_cons (c : Char) (cs : List Char) :
    byteLength (c :: cs) = c.utf8Size + byteLength cs := by
  have hFold (start : Nat) : cs.foldl (fun n c => n + c.utf8Size) start = start + byteLength cs := by
    rw [byteLength]
    induction cs generalizing start with
    | nil => rfl
    | cons x cs ih =>
      rw [List.foldl_cons, List.foldl_cons, ih, ih (0 + x.utf8Size)]
      omega
  rw [byteLength, List.foldl_cons, hFold]
  omega

theorem byteLength_eq_length {cs : List Char} (h : ∀ c ∈ cs, c.utf8Size = 1) :
    byteLength cs = cs.length := by
  induction cs with
  | nil => rfl
  | cons c cs ih =>
    rw [byteLength_cons, h c List.mem_cons_self, ih fun x hx => h x (List.mem_cons_of_mem c hx),
      List.length_cons]
    omega

theorem utf8Size_of_isDigit {c : Char} (h : c.isDigit) : c.utf8Size = 1 :=
  Text.isDigit_cases (motive := fun c => c.utf8Size = 1) (by decide) h

/-- **Days are read back.** -/
theorem readDate?_text (d : Date) : readDate? d.text.toList = some d := by
  have hAscii : ∀ c ∈ d.text.toList, c.utf8Size = 1 := by
    intro c hc
    rcases mem_dateText hc with hc | rfl
    · exact utf8Size_of_isDigit hc
    · decide
  have hRead := readDay?_text d []
  rw [List.append_nil] at hRead
  simp [readDate?, byteLength_eq_length hAscii, length_dateText, hRead]

/-! ## Times -/

/-- Hours, minutes and seconds between colons. -/
def clockChars (hour minute second : Nat) : List Char :=
  pair hour ++ ':' :: (pair minute ++ ':' :: pair second)

/-- The digits of a fraction behind a point, unless it is zero. -/
def fractionChars (micro : Nat) : List Char :=
  if micro = 0 then [] else '.' :: (paddedNat 6 micro).toList

/-- A pair with a colon behind it, where there are colons. -/
theorem readPairs?_colon {after more : List Char} {n v : Nat} {colons? : Option Bool}
    (hv : v < 100) (hColons : colons?.getD true = true) (hMore : more ≠ []) :
    readPairs? after (n + 1) colons? (pair v ++ ':' :: more) =
      (readPairs? after n (some true) more).map fun r => (v :: r.1, r.2) := by
  have hc : colons?.getD (':' == ':') = true := hColons
  simp only [readPairs?, takeDigits?_pair hv, Option.bind_eq_bind, Option.bind_some, hc,
    List.isEmpty_eq_false_iff.mpr hMore]
  cases readPairs? after n (some true) more <;> simp

/-- The last pair of a part. -/
theorem readPairs?_last {after : List Char} {n v : Nat} {colons? : Option Bool} (hv : v < 100) :
    readPairs? after (n + 1) colons? (pair v) = some ([v], .ended (goesOn after)) := by
  have hDigits : takeDigits? 2 (pair v ++ []) = some (v, []) := takeDigits?_pair hv
  rw [List.append_nil] at hDigits
  simp [readPairs?, hDigits]

/-- The last pair before a fraction. -/
theorem readPairs?_point {after more : List Char} {n v : Nat} (hv : v < 100) (hMore : more ≠ []) :
    readPairs? after (n + 1) (some true) (pair v ++ '.' :: more) =
      some ([v], .atFraction more) := by
  simp [readPairs?, takeDigits?_pair hv, hMore]

theorem readFraction?_padded {after : List Char} {micro : Nat} (h : micro < 1000000) :
    readFraction? (paddedNat 6 micro).toList after = some (micro, goesOn after) := by
  have hLength : (paddedNat 6 micro).toList.length = 6 := Text.length_padded (by decide) h
  have hDigits : takeDigits? 6 ((paddedNat 6 micro).toList ++ []) = some (micro, []) :=
    takeDigits?_padded (by decide) h
  rw [List.append_nil] at hDigits
  simp [readFraction?, hLength, hDigits]

theorem pair_ne_nil (n : Nat) : pair n ≠ [] := by
  obtain ⟨c, cs, h, -⟩ := exists_cons_padded 2 n
  simp [pair, h]

/-- Hours and minutes alone. -/
theorem readFields?_short {after : List Char} {h m : Nat} (hh : h < 100) (hm : m < 100) :
    readFields? (pair h ++ ':' :: pair m) after = some (⟨h, m, 0, 0⟩, goesOn after) := by
  have hPairs : readPairs? after 3 none (pair h ++ ':' :: pair m) =
      some ([h, m], .ended (goesOn after)) := by
    rw [readPairs?_colon (n := 2) hh rfl (pair_ne_nil m), readPairs?_last (n := 1) hm]
    rfl
  simp [readFields?, hPairs]

/-- Hours, minutes and seconds, with a fraction if there is one. -/
theorem readFields?_clock {after : List Char} {h m s micro : Nat} (hh : h < 100) (hm : m < 100)
    (hs : s < 100) (hMicro : micro < 1000000) :
    readFields? (clockChars h m s ++ fractionChars micro) after =
      some (⟨h, m, s, micro⟩, goesOn after) := by
  have hHead : ∀ tail, readPairs? after 3 none (clockChars h m s ++ tail) =
      (readPairs? after 1 (some true) (pair s ++ tail)).map fun r => (h :: m :: r.1, r.2) := by
    intro tail
    have hne : pair m ++ ':' :: (pair s ++ tail) ≠ [] :=
      List.append_ne_nil_of_left_ne_nil (pair_ne_nil m) _
    have hne' : pair s ++ tail ≠ [] := List.append_ne_nil_of_left_ne_nil (pair_ne_nil s) _
    simp only [clockChars, List.append_assoc, List.cons_append]
    rw [readPairs?_colon (n := 2) hh rfl hne, readPairs?_colon (n := 1) hm rfl hne',
      Option.map_map]
    rfl
  -- a fraction of zero is not written
  by_cases h0 : micro = 0
  · have hLast : readPairs? after 1 (some true) (pair s) = some ([s], .ended (goesOn after)) :=
      readPairs?_last hs
    rw [readFields?, fractionChars, if_pos h0, hHead [], List.append_nil, hLast, h0]
    rfl
  · obtain ⟨c, cs, hcs, -⟩ := exists_cons_padded 6 micro
    have hPoint : readPairs? after 1 (some true) (pair s ++ '.' :: (paddedNat 6 micro).toList) =
        some ([s], .atFraction (paddedNat 6 micro).toList) :=
      readPairs?_point hs (by simp [hcs])
    simp [readFields?, fractionChars, h0, hHead ('.' :: _), hPoint, readFraction?_padded hMicro]

/-! ## Offsets -/

/-- The digits of an offset of so many microseconds, behind its sign. -/
def offsetChars (n : Nat) : List Char :=
  if n / 1000000 % 60 = 0 ∧ n % 1000000 = 0 then
    pair (n / 3600000000) ++ ':' :: pair (n / 60000000 % 60)
  else
    clockChars (n / 3600000000) (n / 60000000 % 60) (n / 1000000 % 60) ++
      fractionChars (n % 1000000)

theorem toList_offsetText (o : Offset) :
    o.text.toList = (if o.micros < 0 then '-' else '+') :: offsetChars o.micros.natAbs := by
  have hSign : (if o.micros < 0 then "-" else "+").toList =
      [if o.micros < 0 then '-' else '+'] := by
    split <;> rfl
  simp only [Offset.text, String.toList_append, hSign]
  -- zero seconds are written only if a fraction follows
  by_cases hm : o.micros.natAbs % 1000000 = 0
  · by_cases hs : o.micros.natAbs / 1000000 % 60 = 0 <;>
      simp [hm, hs, offsetChars, clockChars, fractionChars, pair]
  · simp [hm, offsetChars, clockChars, fractionChars, pair]

theorem readFields?_offsetChars {n : Nat} (h : n < 86400000000) :
    readFields? (offsetChars n) [] =
      some (⟨n / 3600000000, n / 60000000 % 60, n / 1000000 % 60, n % 1000000⟩, false) := by
  unfold offsetChars
  split
  · next h =>
    rw [readFields?_short (by omega) (by omega), h.1, h.2]
    rfl
  · rw [readFields?_clock (by omega) (by omega) (by omega) (by omega)]
    rfl

/-- The whole seconds decide: without them the offset that is read is none. -/
theorem toOffset?_fields (o : Offset) {n : Nat} (hn : n = o.micros.natAbs) :
    (Fields.mk (n / 3600000000) (n / 60000000 % 60) (n / 1000000 % 60) (n % 1000000)).toOffset?
      (decide (o.micros < 0)) = some o.asRead := by
  have hSeconds : n / 3600000000 * 3600 + n / 60000000 % 60 * 60 + n / 1000000 % 60 =
      n / 1000000 := by omega
  simp only [Fields.toOffset?, hSeconds]
  -- the reader looks at the seconds first, and forgets a fraction that stands alone
  by_cases h0 : n / 1000000 = 0
  · have : o.micros.natAbs < 1000000 := by omega
    simp [h0, Offset.asRead, this]
  · have hWhole : ¬o.micros.natAbs < 1000000 := by omega
    have hMicros : (if decide (o.micros < 0) = true then
        -((n / 1000000 * 1000000 + n % 1000000 : Nat) : Int)
        else (n / 1000000 * 1000000 + n % 1000000 : Nat)) = o.micros := by
      by_cases hneg : o.micros < 0 <;> simp only [hneg, decide_true, decide_false,
        Bool.false_eq_true, if_true, if_false] <;> omega
    simp only [h0, if_false, hMicros, Offset.of?, Offset.asRead, hWhole]
    exact dif_pos o.inDay

/-- An offset is read back, unless it is a fraction of a second. -/
theorem readOffset?_text (o : Offset) : readOffset? o.text.toList = some o.asRead := by
  have hDay : o.micros.natAbs < 86400000000 := by
    have := o.inDay
    simp only [dayMicros] at this
    omega
  have hOffset := toOffset?_fields o rfl
  rw [toList_offsetText]
  by_cases hneg : o.micros < 0 <;> simp only [hneg, decide_true, decide_false] at hOffset <;>
    simp [hneg, readOffset?, readFields?_offsetChars hDay, hOffset]

/-! ## Date-times -/

theorem toList_timeText (t : TimeOfDay) :
    t.text.toList = clockChars t.hour t.minute t.second ++ fractionChars t.micro := by
  by_cases h : t.micro = 0 <;>
    simp [TimeOfDay.text, TimeOfDay.clockText, h, clockChars, fractionChars, pair]

/-- Is the character one of a written time or offset? -/
def IsClock (c : Char) : Prop := c.isDigit ∨ c = ':' ∨ c = '.'

theorem isClock_of_mem_pair {n : Nat} {c : Char} (h : c ∈ pair n) : IsClock c :=
  .inl (Text.isDigit_of_mem_padded h)

theorem isClock_of_mem_clockChars {h m s : Nat} {c : Char} (hc : c ∈ clockChars h m s) :
    IsClock c := by
  simp only [clockChars, List.mem_append, List.mem_cons] at hc
  rcases hc with hc | rfl | hc | rfl | hc
  · exact isClock_of_mem_pair hc
  · exact .inr (.inl rfl)
  · exact isClock_of_mem_pair hc
  · exact .inr (.inl rfl)
  · exact isClock_of_mem_pair hc

theorem isClock_of_mem_fractionChars {n : Nat} {c : Char} (hc : c ∈ fractionChars n) :
    IsClock c := by
  simp only [fractionChars] at hc
  split at hc
  · simp at hc
  · rcases List.mem_cons.mp hc with rfl | hc
    · exact .inr (.inr rfl)
    · exact .inl (Text.isDigit_of_mem_padded hc)

theorem isClock_of_mem_timeText {t : TimeOfDay} {c : Char} (hc : c ∈ t.text.toList) :
    IsClock c := by
  rw [toList_timeText, List.mem_append] at hc
  exact hc.elim isClock_of_mem_clockChars isClock_of_mem_fractionChars

theorem isClock_of_mem_offsetChars {n : Nat} {c : Char} (hc : c ∈ offsetChars n) : IsClock c := by
  simp only [offsetChars] at hc
  split at hc
  · simp only [List.mem_append, List.mem_cons] at hc
    rcases hc with hc | rfl | hc
    · exact isClock_of_mem_pair hc
    · exact .inr (.inl rfl)
    · exact isClock_of_mem_pair hc
  · rcases List.mem_append.mp hc with hc | hc
    · exact isClock_of_mem_clockChars hc
    · exact isClock_of_mem_fractionChars hc

theorem endsInDigit_clockChars (h m s : Nat) : EndsInDigit (clockChars h m s) :=
  ((((endsInDigit_padded 2 s).cons ':').append _).cons ':').append _

theorem endsInDigit_clock_fraction (h m s micro : Nat) :
    EndsInDigit (clockChars h m s ++ fractionChars micro) := by
  unfold fractionChars
  split
  · rw [List.append_nil]
    exact endsInDigit_clockChars h m s
  · exact ((endsInDigit_padded 6 micro).cons '.').append _

theorem endsInDigit_offsetChars (n : Nat) : EndsInDigit (offsetChars n) := by
  unfold offsetChars
  split
  · exact ((endsInDigit_padded 2 _).cons ':').append _
  · exact endsInDigit_clock_fraction _ _ _ _

theorem IsClock.beginsOffset_eq_false {c : Char} (h : IsClock c) : beginsOffset c = false := by
  rcases h with h | rfl | rfl
  · exact Text.isDigit_cases (motive := fun c => beginsOffset c = false) (by decide) h
  · decide
  · decide

/-- The text of an offset, empty if there is none. -/
def zoneChars (offset : Option Offset) : List Char := ((offset.map Offset.text).getD "").toList

theorem toList_textWith (separator : String) (t : DateTime) :
    (t.textWith separator).toList =
      t.date.text.toList ++ (separator.toList ++ (t.time.text.toList ++ zoneChars t.offset)) := by
  simp [DateTime.textWith, zoneChars]

theorem endsInDigit_textWith (separator : String) (t : DateTime) :
    EndsInDigit (t.textWith separator).toList := by
  have hTime : EndsInDigit t.time.text.toList := by
    rw [toList_timeText]
    exact endsInDigit_clock_fraction _ _ _ _
  rw [toList_textWith]
  cases t.offset with
  | none => exact (EndsInDigit.append (by simpa [zoneChars] using hTime) _).append _
  | some o =>
    have hZone : EndsInDigit (zoneChars (some o)) := by
      simp only [zoneChars, Option.map_some, Option.getD_some, toList_offsetText]
      exact (endsInDigit_offsetChars _).cons _
    exact ((hZone.append _).append _).append _

/-- There is no letter in a written date-time but the separator. -/
theorem mem_textWith {separator : String} {t : DateTime} {x : Char}
    (h : x ∈ (t.textWith separator).toList) :
    x ∈ separator.toList ∨ x.isDigit ∨ x ∈ ['-', '+', ':', '.'] := by
  have hClock : ∀ {x}, IsClock x →
      x ∈ separator.toList ∨ x.isDigit ∨ x ∈ ['-', '+', ':', '.'] := by
    rintro x (h | rfl | rfl)
    · exact .inr (.inl h)
    · exact .inr (.inr (by decide))
    · exact .inr (.inr (by decide))
  simp only [toList_textWith, List.mem_append] at h
  rcases h with h | h | h | h
  · rcases mem_dateText h with h | rfl
    · exact .inr (.inl h)
    · exact .inr (.inr (by decide))
  · exact .inl h
  · exact hClock (isClock_of_mem_timeText h)
  · cases ho : t.offset with
    | none => simp [zoneChars, ho] at h
    | some o =>
      simp only [zoneChars, ho, Option.map_some, Option.getD_some, toList_offsetText,
        List.mem_cons] at h
      rcases h with rfl | h
      · exact .inr (.inr (by split <;> decide))
      · exact hClock (isClock_of_mem_offsetChars h)

theorem of?_self (t : TimeOfDay) : TimeOfDay.of? t.hour t.minute t.second t.micro = some t := by
  simp [TimeOfDay.of?, t.inRange]

/-- The time and the offset behind the separator. -/
theorem readTime?_text (t : TimeOfDay) (offset : Option Offset) :
    readTime? (t.text.toList ++ zoneChars offset) = some (t, offset.map Offset.asRead) := by
  have hTime : ∀ c ∈ t.text.toList, (!beginsOffset c) = true := by
    intro c hc
    simp [(isClock_of_mem_timeText hc).beginsOffset_eq_false]
  have hStop : ∀ c ∈ (zoneChars offset).head?, (!beginsOffset c) = false := by
    cases offset with
    | none => simp [zoneChars]
    | some o =>
      simp only [zoneChars, Option.map_some, Option.getD_some, toList_offsetText]
      rintro c ⟨⟩
      split <;> decide
  -- the sign of the offset is the first character that no time has
  have hPart := Text.takeWhile_append_stop hTime hStop
  have hAfter := Text.dropWhile_append_stop hTime hStop
  have hFields : readFields? t.text.toList (zoneChars offset) =
      some (⟨t.hour, t.minute, t.second, t.micro⟩, goesOn (zoneChars offset)) := by
    have := t.inRange
    rw [toList_timeText, readFields?_clock (by omega) (by omega) (by omega) (by omega)]
  simp only [readTime?, hPart, hAfter, hFields]
  cases offset with
  | none => simp [zoneChars, goesOn, of?_self]
  | some o =>
    have hZone : readOffset? (zoneChars (some o)) = some o.asRead := readOffset?_text o
    have hne : (zoneChars (some o)).isEmpty = false := by
      simp [zoneChars, toList_offsetText]
    simp [hne, hZone, of?_self]

/-- The date of a written date-time ends at its tenth character. -/
theorem separatorPlace?_text (d : Date) (c : Char) (rest : List Char) :
    separatorPlace? (d.text.toList ++ c :: rest) = some 10 := by
  have hLength : (d.text.toList ++ c :: rest).length ≠ 7 := by
    simp [length_dateText]
    omega
  have hYear : (paddedNat 4 d.year).toList.length = 4 :=
    Text.length_padded (by decide) (Nat.lt_of_le_of_lt d.isDay.2.1 (by decide))
  -- a week would be marked where the month begins
  obtain ⟨m, ms, hm, hDigit⟩ := exists_cons_padded 2 d.month
  have hNoWeek : m ≠ 'W' := by
    rintro rfl
    exact absurd hDigit (by decide)
  have hDrop : (d.text.toList ++ c :: rest).drop 4 =
      '-' :: m :: (ms ++ '-' :: (pair d.day ++ c :: rest)) := by
    simp [toList_dateText, hYear, pair, hm]
  simp only [separatorPlace?, hLength, if_false, hDrop]
  simp [hNoWeek]

/-- **Date-times are read back**, written with any separator of one character; an offset below one
second is lost. -/
theorem readDateTime?_textWith {separator : String} {c : Char} (hc : separator.toList = [c])
    (t : DateTime) : readDateTime? (t.textWith separator).toList = some t.asRead := by
  have hText : (t.textWith separator).toList =
      t.date.text.toList ++ c :: (t.time.text.toList ++ zoneChars t.offset) := by
    rw [toList_textWith, hc, List.singleton_append]
  have hDate : readDay? t.date.text.toList = some t.date := by
    simpa using readDay?_text t.date []
  have hTake : (t.date.text.toList ++ c :: (t.time.text.toList ++ zoneChars t.offset)).take 10 =
      t.date.text.toList := List.take_left' (length_dateText t.date)
  have hDrop : (t.date.text.toList ++ c :: (t.time.text.toList ++ zoneChars t.offset)).drop 10 =
      c :: (t.time.text.toList ++ zoneChars t.offset) := List.drop_left' (length_dateText t.date)
  rw [hText]
  simp [readDateTime?, separatorPlace?_text, hTake, hDate, hDrop, readTime?_text, DateTime.asRead]

end Iso

end Calendar

end Winnow
