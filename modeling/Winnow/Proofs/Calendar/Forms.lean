import Winnow.Proofs.Calendar.RoundTrip

/-!
# Winnow.Proofs.Calendar.Forms — the forms of a day

A day is read from the begin of a text in one of three forms (`Iso.DayForm`): year, month and day;
year, week and weekday; and a week without its weekday, at the end of a text. Each is written with
dashes or without.

The date reader takes texts of certain numbers of bytes and does not look at what follows the day;
the date-time reader looks for a separator and a time there. Main statement: what the date reader
accepts has ten characters, or the date-time reader makes the midnight of the same day of it, or a
single character of two bytes follows the day, and the date-time reader makes nothing of it
(`Iso.dayReading_of_readDate?`).
-/

namespace Winnow.Calendar.Iso

/-! ## Digits and bytes -/

/-- Are these `n` digits? -/
def AreDigits (n : Nat) (ds : List Char) : Prop := ds.length = n ∧ ∀ c ∈ ds, c.isDigit

theorem takeDigits?_eq_some {n v : Nat} {cs rest : List Char}
    (h : takeDigits? n cs = some (v, rest)) : ∃ ds, AreDigits n ds ∧ cs = ds ++ rest := by
  simp only [takeDigits?] at h
  split at h
  · next hDigits =>
    rw [Bool.and_eq_true, decide_eq_true_iff, List.all_eq_true] at hDigits
    obtain ⟨-, rfl⟩ := Prod.mk.inj (Option.some.inj h)
    exact ⟨cs.take n, hDigits, (List.take_append_drop n cs).symm⟩
  · cases h

theorem byteLength_append (cs ds : List Char) :
    byteLength (cs ++ ds) = byteLength cs + byteLength ds := by
  induction cs with
  | nil => simp [byteLength]
  | cons c cs ih =>
    rw [List.cons_append, byteLength_cons, byteLength_cons, ih]
    omega

theorem eq_nil_of_byteLength {cs : List Char} (h : byteLength cs = 0) : cs = [] := by
  cases cs with
  | nil => rfl
  | cons c cs =>
    rw [byteLength_cons] at h
    have hc := c.utf8Size_pos
    omega

/-- Two bytes are two characters of one byte or one of two. -/
theorem byteLength_eq_two {cs : List Char} (h : byteLength cs = 2) :
    cs.length = 2 ∨ ∃ c, cs = [c] ∧ c.utf8Size = 2 := by
  match cs with
  | [] => cases h
  | [c] => exact .inr ⟨c, rfl, by simpa [byteLength] using h⟩
  | [_, _] => exact .inl rfl
  | a :: b :: c :: rest =>
    simp only [byteLength_cons] at h
    have ha := a.utf8Size_pos
    have hb := b.utf8Size_pos
    have hc := c.utf8Size_pos
    omega

/-! ## What the reader of days accepts -/

/-- A dash where a form has dashes. -/
def dash (dashed : Bool) : List Char := if dashed then ['-'] else []

/-- A day as it is written, with dashes or without, and what follows it. Nothing follows a week
without a weekday, which stands for its Monday. -/
inductive DayForm : List Char → List Char → Prop
  | monthDay (dashed : Bool) {y m d rest : List Char} (hy : AreDigits 4 y) (hm : AreDigits 2 m)
    (hd : AreDigits 2 d) : DayForm (y ++ dash dashed ++ m ++ dash dashed ++ d) rest
  | weekday (dashed : Bool) {y w d rest : List Char} (hy : AreDigits 4 y) (hw : AreDigits 2 w)
    (hd : AreDigits 1 d) : DayForm (y ++ dash dashed ++ 'W' :: w ++ dash dashed ++ d) rest
  | monday (dashed : Bool) {y w : List Char} (hy : AreDigits 4 y) (hw : AreDigits 2 w) :
    DayForm (y ++ dash dashed ++ 'W' :: w) []

/-- The dash behind the year, or its absence, decides on the dashes that follow. -/
theorem readDay?_eq_some {cs : List Char} {date : Date} (h : readDay? cs = some date) :
    ∃ year y dashed more, AreDigits 4 y ∧ cs = y ++ (dash dashed ++ more) ∧
      ((∃ week, more = 'W' :: week ∧ readWeek? year dashed week = some date) ∨
        readMonthDay? year dashed more = some date) := by
  obtain ⟨⟨year, behind⟩, hYear, hRest⟩ := Option.bind_eq_some_iff.mp h
  obtain ⟨y, hy, rfl⟩ := takeDigits?_eq_some hYear
  cases behind with
  | nil => exact ⟨year, y, false, [], hy, rfl, .inr hRest⟩
  | cons c behind =>
    by_cases hDash : c = '-'
    · subst hDash
      dsimp only at hRest
      split at hRest
      · next hWeek => exact ⟨year, y, true, behind, hy, rfl, .inl ⟨_, hWeek, hRest⟩⟩
      · exact ⟨year, y, true, behind, hy, rfl, .inr hRest⟩
    · simp only [List.cons.injEq, hDash, false_and, imp_self, implies_true] at hRest
      split at hRest
      · next hWeek => exact ⟨year, y, false, c :: behind, hy, rfl, .inl ⟨_, hWeek, hRest⟩⟩
      · exact ⟨year, y, false, c :: behind, hy, rfl, .inr hRest⟩

/-- Where there has to be a dash, there is one. -/
theorem exists_afterDash {α : Type} {dashed : Bool} {cs : List Char} {f : List Char → Option α}
    {a : α} (h : (if dashed then (afterDash? cs).bind f else (some cs).bind f) = some a) :
    ∃ rest, cs = dash dashed ++ rest ∧ f rest = some a := by
  cases dashed with
  | true =>
    obtain ⟨rest, hDash, hRest⟩ := Option.bind_eq_some_iff.mp h
    unfold afterDash? at hDash
    split at hDash
    · obtain rfl := Option.some.inj hDash
      exact ⟨_, rfl, hRest⟩
    · cases hDash
  | false => exact ⟨cs, rfl, h⟩

/-- A week and a weekday, or a week at the end, in what follows the `W`. -/
theorem readWeek?_eq_some {year : Nat} {dashed : Bool} {cs : List Char} {date : Date}
    (h : readWeek? year dashed cs = some date) :
    AreDigits 2 cs ∨ ∃ w d rest, AreDigits 2 w ∧ AreDigits 1 d ∧
      cs = w ++ (dash dashed ++ (d ++ rest)) := by
  simp only [readWeek?, Option.bind_eq_bind, Option.bind_eq_some_iff, Prod.exists] at h
  obtain ⟨week, more, hWeek, h⟩ := h
  obtain ⟨w, hw, rfl⟩ := takeDigits?_eq_some hWeek
  split at h
  · next hEnd =>
    rw [List.isEmpty_iff.mp hEnd, List.append_nil]
    exact .inl hw
  · obtain ⟨digits, rfl, hDay⟩ := exists_afterDash h
    obtain ⟨⟨weekday, rest⟩, hDay, -⟩ := Option.bind_eq_some_iff.mp hDay
    obtain ⟨d, hd, rfl⟩ := takeDigits?_eq_some hDay
    exact .inr ⟨w, d, rest, hw, hd, rfl⟩

/-- A month and a day, in what follows the year. -/
theorem readMonthDay?_eq_some {year : Nat} {dashed : Bool} {cs : List Char} {date : Date}
    (h : readMonthDay? year dashed cs = some date) :
    ∃ m d rest, AreDigits 2 m ∧ AreDigits 2 d ∧ cs = m ++ (dash dashed ++ (d ++ rest)) := by
  simp only [readMonthDay?, Option.bind_eq_bind, Option.bind_eq_some_iff, Prod.exists] at h
  obtain ⟨month, more, hMonth, h⟩ := h
  obtain ⟨m, hm, rfl⟩ := takeDigits?_eq_some hMonth
  obtain ⟨digits, rfl, hDay⟩ := exists_afterDash h
  obtain ⟨⟨day, rest⟩, hDay, -⟩ := Option.bind_eq_some_iff.mp hDay
  obtain ⟨d, hd, rfl⟩ := takeDigits?_eq_some hDay
  exact ⟨m, d, rest, hm, hd, rfl⟩

/-- What is read as a day begins with one of the forms of a day. -/
theorem exists_dayForm {cs : List Char} {date : Date} (h : readDay? cs = some date) :
    ∃ day rest, cs = day ++ rest ∧ DayForm day rest := by
  obtain ⟨year, y, dashed, more, hy, rfl, ⟨week, rfl, hWeek⟩ | hMonth⟩ := readDay?_eq_some h
  · rcases readWeek?_eq_some hWeek with hw | ⟨w, d, rest, hw, hd, rfl⟩
    · exact ⟨_, [], by simp, .monday dashed hy hw⟩
    · exact ⟨_, rest, by simp, .weekday dashed hy hw hd⟩
  · obtain ⟨m, d, rest, hm, hd, rfl⟩ := readMonthDay?_eq_some hMonth
    exact ⟨_, rest, by simp, .monthDay dashed hy hm hd⟩

theorem length_dash (dashed : Bool) : (dash dashed).length = dashed.toNat := by
  cases dashed <;> rfl

theorem mem_dash {dashed : Bool} {c : Char} (h : c ∈ dash dashed) : c = '-' := by
  cases dashed with
  | true => exact List.mem_singleton.mp h
  | false => cases h

namespace DayForm

variable {day rest : List Char}

/-- A day is written in digits, dashes and a `W`. -/
theorem mem (h : DayForm day rest) : ∀ c ∈ day, c.isDigit ∨ c = '-' ∨ c = 'W' := by
  intro c hc
  cases h with
  | monthDay dashed hy hm hd =>
    simp only [List.mem_append] at hc
    rcases hc with (((hc | hc) | hc) | hc) | hc
    · exact .inl (hy.2 c hc)
    · exact .inr (.inl (mem_dash hc))
    · exact .inl (hm.2 c hc)
    · exact .inr (.inl (mem_dash hc))
    · exact .inl (hd.2 c hc)
  | weekday dashed hy hw hd =>
    simp only [List.mem_append, List.mem_cons] at hc
    rcases hc with (((hc | hc) | rfl | hc) | hc) | hc
    · exact .inl (hy.2 c hc)
    · exact .inr (.inl (mem_dash hc))
    · exact .inr (.inr rfl)
    · exact .inl (hw.2 c hc)
    · exact .inr (.inl (mem_dash hc))
    · exact .inl (hd.2 c hc)
  | monday dashed hy hw =>
    simp only [List.mem_append, List.mem_cons] at hc
    rcases hc with (hc | hc) | rfl | hc
    · exact .inl (hy.2 c hc)
    · exact .inr (.inl (mem_dash hc))
    · exact .inr (.inr rfl)
    · exact .inl (hw.2 c hc)

/-- So the day has as many bytes as characters. -/
theorem byteLength_eq (h : DayForm day rest) : byteLength day = day.length := by
  refine byteLength_eq_length fun c hc => ?_
  rcases h.mem c hc with hc | rfl | rfl
  · exact utf8Size_of_isDigit hc
  · rfl
  · rfl

/-- A day has ten characters, or it is short: four digits behind the year, or a week and a weekday,
without dashes, or a week at the end of the text. -/
theorem length_cases (h : DayForm day rest) : day.length = 10 ∨
    (∃ y md, AreDigits 4 y ∧ AreDigits 4 md ∧ day = y ++ md) ∨
    (∃ y wd, AreDigits 4 y ∧ AreDigits 3 wd ∧ day = y ++ 'W' :: wd) ∨
    rest = [] ∧ ∃ dashed y w, AreDigits 4 y ∧ AreDigits 2 w ∧ day = y ++ dash dashed ++ 'W' :: w := by
  have hAppend {m n : Nat} {cs ds : List Char} (hc : AreDigits m cs) (hd : AreDigits n ds) :
      AreDigits (m + n) (cs ++ ds) :=
    ⟨by rw [List.length_append, hc.1, hd.1], List.forall_mem_append.mpr ⟨hc.2, hd.2⟩⟩
  cases h with
  | @monthDay dashed y m d _ hy hm hd =>
    cases dashed with
    | true => simp [length_dash, hy.1, hm.1, hd.1]
    | false => exact .inr (.inl ⟨y, m ++ d, hy, hAppend hm hd, by simp [dash]⟩)
  | @weekday dashed y w d _ hy hw hd =>
    cases dashed with
    | true => simp [length_dash, hy.1, hw.1, hd.1]
    | false => exact .inr (.inr (.inl ⟨y, w ++ d, hy, hAppend hw hd, by simp [dash]⟩))
  | monday dashed hy hw => exact .inr (.inr (.inr ⟨rfl, dashed, _, _, hy, hw, rfl⟩))

end DayForm

/-! ## Where the day ends -/

section Separator

variable {y rest : List Char} (hy : AreDigits 4 y)

include hy

theorem separatorPlace?_monthDay {md : List Char} (hmd : AreDigits 4 md) :
    separatorPlace? (y ++ md ++ rest) = some 8 := by
  have hLength : (y ++ md ++ rest).length ≠ 7 := by
    simp only [List.length_append, hy.1, hmd.1]
    omega
  obtain ⟨m, m', d, d', rfl⟩ := List.length_eq_four.mp hmd.1
  have hDigit : m.isDigit := hmd.2 m List.mem_cons_self
  have hDash : m ≠ '-' := by
    rintro rfl
    exact absurd hDigit (by decide)
  have hWeek : m ≠ 'W' := by
    rintro rfl
    exact absurd hDigit (by decide)
  have hDrop : (y ++ [m, m', d, d'] ++ rest).drop 4 = m :: m' :: d :: d' :: rest := by
    rw [List.append_assoc]
    exact List.drop_left' hy.1
  simp only [separatorPlace?, hLength, if_false, hDrop]
  simp [hDash, hWeek]

/-- The digits behind the week are counted; without a further digit there is one. -/
theorem separatorPlace?_weekday {wd : List Char} (hwd : AreDigits 3 wd)
    (hRest : ∀ c ∈ rest.head?, c.isDigit = false) :
    separatorPlace? (y ++ 'W' :: wd ++ rest) = some 8 := by
  have hLength : (y ++ 'W' :: wd ++ rest).length ≠ 7 := by
    simp only [List.length_append, List.length_cons, hy.1, hwd.1]
    omega
  obtain ⟨w, w', d, rfl⟩ := List.length_eq_three.mp hwd.1
  have hDigit : d.isDigit := hwd.2 d (by simp)
  have hDrop : (y ++ 'W' :: [w, w', d] ++ rest).drop 4 = 'W' :: w :: w' :: d :: rest := by
    rw [List.append_assoc]
    exact List.drop_left' hy.1
  have hEnd : (y ++ 'W' :: [w, w', d] ++ rest).drop 7 = d :: rest := by
    have hSplit : y ++ 'W' :: [w, w', d] ++ rest = (y ++ ['W', w, w']) ++ d :: rest := by simp
    rw [hSplit]
    exact List.drop_left' (by simp [hy.1])
  have hNone : rest.takeWhile Char.isDigit = [] := by
    cases rest with
    | nil => rfl
    | cons c rest => simp [hRest c rfl]
  simp only [separatorPlace?, hLength, if_false, hDrop, hEnd, List.takeWhile_cons, hDigit, hNone]
  rfl

/-- A week without a weekday is the whole text. -/
theorem separatorPlace?_monday (dashed : Bool) {w : List Char} (hw : AreDigits 2 w) :
    separatorPlace? (y ++ dash dashed ++ 'W' :: w) =
      some (y ++ dash dashed ++ 'W' :: w).length := by
  obtain ⟨w, w', rfl⟩ := List.length_eq_two.mp hw.1
  have hLength : (y ++ dash dashed ++ 'W' :: [w, w']).length = 7 + dashed.toNat := by
    simp only [List.length_append, List.length_cons, List.length_nil, hy.1, length_dash]
    omega
  cases dashed with
  | true =>
    have hDrop : (y ++ dash true ++ 'W' :: [w, w']).drop 4 = '-' :: 'W' :: [w, w'] := by
      rw [List.append_assoc]
      exact List.drop_left' hy.1
    have hEighth : (y ++ dash true ++ 'W' :: [w, w'])[8]? = none := by
      rw [List.getElem?_eq_none_iff, hLength]
      decide
    simp only [separatorPlace?, hLength, hDrop, hEighth]
    rfl
  | false =>
    rw [separatorPlace?, hLength]
    rfl

end Separator

/-! ## The two readers -/

/-- Does a character of two bytes follow a day of eight characters without dashes? -/
def TrailsLetter (cs : List Char) : Prop :=
  ∃ day c, cs = day ++ [c] ∧ day.length = 8 ∧ (∀ x ∈ day, x.isDigit ∨ x = 'W') ∧ c.utf8Size = 2

/-- Other letters of one byte are not in such a text. -/
theorem TrailsLetter.not_mem {cs : List Char} {x : Char} (h : TrailsLetter cs)
    (hDigit : x.isDigit = false) (hWeek : x ≠ 'W') (hSize : x.utf8Size = 1) : x ∉ cs := by
  obtain ⟨day, c, rfl, -, hDay, hc⟩ := h
  intro hx
  rcases List.mem_append.mp hx with hx | hx
  · rcases hDay x hx with hx | hx
    · rw [hDigit] at hx
      cases hx
    · exact hWeek hx
  · rw [List.mem_singleton.mp hx, hc] at hSize
    cases hSize

theorem TrailsLetter.length_eq {cs : List Char} (h : TrailsLetter cs) : cs.length = 9 := by
  obtain ⟨day, c, rfl, hLength, -, -⟩ := h
  rw [List.length_append, hLength, List.length_singleton]

theorem readDay?_of_readDate? {cs : List Char} {d : Date} (h : readDate? cs = some d) :
    readDay? cs = some d ∧ (byteLength cs = 7 ∨ byteLength cs = 8 ∨ byteLength cs = 10) := by
  simp only [readDate?] at h
  split at h
  · next hBytes => exact ⟨h, by simpa [or_assoc] using hBytes⟩
  · cases h

/-- A day alone is its midnight. -/
theorem readDateTime?_of_day {day : List Char} {date : Date} (h : readDay? day = some date)
    (hPlace : separatorPlace? day = some day.length) :
    readDateTime? day = some (.atMidnight date) := by
  simp [readDateTime?, hPlace, h]

/-- A single character behind the day is a separator with no time behind it. -/
theorem readDateTime?_of_separator {day : List Char} {c : Char}
    (hPlace : separatorPlace? (day ++ [c]) = some day.length) : readDateTime? (day ++ [c]) = none := by
  have hTime : readTime? [] = none := rfl
  simp [readDateTime?, hPlace, hTime]

/-- What the two readers make of a text in which the date reader finds the day. A text of ten
characters is not told here. -/
inductive DayReading (date : Date) (cs : List Char) : Prop
  | ofTen (length : cs.length = 10)
  | midnight (short : cs.length ≤ 8) (noZone : 'Z' ∉ cs)
    (read : readDateTime? cs = some (.atMidnight date))
  | nothing (trails : TrailsLetter cs) (read : readDateTime? cs = none)

/-- Behind a day of eight characters without dashes stand no character, two, or one. -/
theorem dayReading_of_length {day rest : List Char} {date : Date} (hLength : day.length = 8)
    (hPlain : ∀ x ∈ day, x.isDigit ∨ x = 'W') (hDay : readDay? (day ++ rest) = some date)
    (hBytes : byteLength rest = 0 ∨ byteLength rest = 2)
    (hPlace : (∀ c ∈ rest.head?, c.isDigit = false) → separatorPlace? (day ++ rest) = some 8) :
    DayReading date (day ++ rest) := by
  rw [← hLength] at hPlace
  rcases hBytes with hNone | hTwo
  · obtain rfl := eq_nil_of_byteLength hNone
    rw [List.append_nil] at hDay hPlace ⊢
    have hZone : 'Z' ∉ day := by
      intro hMem
      rcases hPlain _ hMem with h | h <;> exact absurd h (by decide)
    exact .midnight hLength.le hZone (readDateTime?_of_day hDay (hPlace nofun))
  · -- two characters make ten; a single one is no digit, so the time would begin at it
    rcases byteLength_eq_two hTwo with hTwo | ⟨c, rfl, hc⟩
    · apply DayReading.ofTen
      rw [List.length_append]
      omega
    · have hDigit : c.isDigit = false := by
        by_contra hDigit
        have hOne := utf8Size_of_isDigit (by simpa using hDigit : c.isDigit)
        omega
      have hSeparator : separatorPlace? (day ++ [c]) = some day.length :=
        hPlace fun x hx => Option.mem_some.mp hx ▸ hDigit
      have hTrails : TrailsLetter (day ++ [c]) := ⟨day, c, rfl, hLength, hPlain, hc⟩
      exact .nothing hTrails (readDateTime?_of_separator hSeparator)

/-- **What the date reader accepts.** The text has ten characters; or it is shorter, without a `Z`,
and the date-time reader makes the midnight of the same day of it; or one character of two bytes
follows the day, and the date-time reader makes nothing of it. -/
theorem dayReading_of_readDate? {cs : List Char} {date : Date} (h : readDate? cs = some date) :
    DayReading date cs := by
  obtain ⟨hDay, hBytes⟩ := readDay?_of_readDate? h
  obtain ⟨day, rest, rfl, hForm⟩ := exists_dayForm hDay
  rw [byteLength_append, hForm.byteLength_eq] at hBytes
  -- a form of ten characters takes up all bytes, and a week alone all that there is
  rcases hForm.length_cases with hTen | ⟨y, md, hy, hmd, rfl⟩ | ⟨y, wd, hy, hwd, rfl⟩ |
    ⟨rfl, dashed, y, w, hy, hw, rfl⟩
  · have hNone : byteLength rest = 0 := by omega
    obtain rfl := eq_nil_of_byteLength hNone
    rw [List.append_nil]
    exact .ofTen hTen
  · have hLength : (y ++ md).length = 8 := by rw [List.length_append, hy.1, hmd.1]
    refine dayReading_of_length hLength ?_ hDay (by omega) fun _ =>
      separatorPlace?_monthDay hy hmd
    intro x hx
    rcases List.mem_append.mp hx with hx | hx
    · exact .inl (hy.2 x hx)
    · exact .inl (hmd.2 x hx)
  · have hLength : (y ++ 'W' :: wd).length = 8 := by
      rw [List.length_append, List.length_cons, hy.1, hwd.1]
    refine dayReading_of_length hLength ?_ hDay (by omega) fun hRest =>
      separatorPlace?_weekday hy hwd hRest
    intro x hx
    rw [List.mem_append, List.mem_cons] at hx
    rcases hx with hx | rfl | hx
    · exact .inl (hy.2 x hx)
    · exact .inr rfl
    · exact .inl (hwd.2 x hx)
  · have hZone : 'Z' ∉ y ++ dash dashed ++ 'W' :: w := by
      intro hMem
      rcases hForm.mem _ hMem with h | h | h <;> exact absurd h (by decide)
    have hShort : (y ++ dash dashed ++ 'W' :: w).length ≤ 8 := by
      have hDash := dashed.toNat_le
      simp only [List.length_append, List.length_cons, hy.1, hw.1, length_dash]
      omega
    rw [List.append_nil] at hDay ⊢
    exact .midnight hShort hZone (readDateTime?_of_day hDay (separatorPlace?_monday hy dashed hw))

end Winnow.Calendar.Iso
