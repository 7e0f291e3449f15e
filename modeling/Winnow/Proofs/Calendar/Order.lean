import Winnow.Proofs.Calendar.RoundTrip
import Mathlib.Algebra.Group.Nat.Defs

/-!
# Winnow.Proofs.Calendar.Order — the order of stored days and date-times

Days and date-times are stored as texts, and texts are compared by their characters. Main statements:
the order of the texts is the order of the days (`Date.compare_text`), and that of the wall clocks to
the microsecond (`DateTime.compare_storedText`). Every number stands in a fixed number of digits, so
the first characters that differ are digits of the first number that differs
(`Text.padded_append_lt_iff`).
-/

namespace Winnow

namespace Text

open Winnow.Number (digitsValue pow10)

/-! ## Digits in order -/

/-- Texts that begin with as many characters are compared by these first. -/
theorem append_lt_append_iff {xs ys us vs : List Char} (h : xs.length = ys.length) :
    xs ++ us < ys ++ vs ↔ xs < ys ∨ xs = ys ∧ us < vs := by
  induction xs generalizing ys with
  | nil =>
    obtain rfl : ys = [] := List.length_eq_zero_iff.mp h.symm
    simp
  | cons x xs ih =>
    cases ys with
    | nil => simp at h
    | cons y ys =>
      simp only [List.cons_append, List.cons_lt_cons_iff, ih (Nat.succ.inj h), List.cons.injEq]
      grind

/-- The first digit counts most. -/
theorem digitsValue_cons (c : Char) (cs : List Char) :
    digitsValue (c :: cs) = 10 ^ cs.length * (c.toNat - 48) + digitsValue cs := by
  simp only [digitsValue_eq_ofDigitChars]
  rw [Nat.ofDigitChars_cons, Nat.ofDigitChars_eq_ofDigitChars_zero]
  simp

theorem digitsValue_lt {cs : List Char} (h : ∀ c ∈ cs, c.isDigit) :
    digitsValue cs < 10 ^ cs.length := by
  induction cs with
  | nil => decide
  | cons c cs ih =>
    have hc : c.toNat - 48 < 10 :=
      isDigit_cases (motive := fun c => c.toNat - 48 < 10) (by decide) (h c List.mem_cons_self)
    have := ih fun x hx => h x (List.mem_cons_of_mem c hx)
    calc digitsValue (c :: cs) = 10 ^ cs.length * (c.toNat - 48) + digitsValue cs :=
          digitsValue_cons c cs
      _ < 10 ^ cs.length * (c.toNat - 48 + 1) := by rw [Nat.mul_add]; omega
      _ ≤ 10 ^ cs.length * 10 := Nat.mul_le_mul_left _ hc
      _ = 10 ^ (c :: cs).length := (Nat.pow_succ ..).symm

/-- Of two numbers with a remainder below `p` the multiples of `p` decide first. -/
theorem mul_add_lt_iff {p a b u v : Nat} (hu : u < p) (hv : v < p) :
    p * a + u < p * b + v ↔ a < b ∨ a = b ∧ u < v := by
  rcases Nat.lt_trichotomy a b with h | rfl | h
  · have : p * (a + 1) ≤ p * b := Nat.mul_le_mul_left p h
    rw [Nat.mul_add] at this
    omega
  · omega
  · have : p * (b + 1) ≤ p * a := Nat.mul_le_mul_left p h
    rw [Nat.mul_add] at this
    omega

theorem digit_lt_iff {x y : Char} (hx : x.isDigit) (hy : y.isDigit) :
    (x < y ↔ x.toNat - 48 < y.toNat - 48) ∧ (x = y ↔ x.toNat - 48 = y.toNat - 48) := by
  revert y
  refine isDigit_cases (motive := fun x => ∀ {y : Char}, y.isDigit →
    (x < y ↔ x.toNat - 48 < y.toNat - 48) ∧ (x = y ↔ x.toNat - 48 = y.toNat - 48)) ?_ hx
  intro d hd y hy
  refine isDigit_cases (motive := fun y => (Nat.digitChar d < y ↔ (Nat.digitChar d).toNat - 48 <
    y.toNat - 48) ∧ (Nat.digitChar d = y ↔ (Nat.digitChar d).toNat - 48 = y.toNat - 48)) ?_ hy
  revert d
  decide

/-- As many digits are in the order of the numbers that they spell. -/
theorem digits_lt_iff {xs ys : List Char} (hx : ∀ c ∈ xs, c.isDigit) (hy : ∀ c ∈ ys, c.isDigit)
    (h : xs.length = ys.length) : xs < ys ↔ digitsValue xs < digitsValue ys := by
  induction xs generalizing ys with
  | nil =>
    obtain rfl : ys = [] := List.length_eq_zero_iff.mp h.symm
    simp
  | cons x xs ih =>
    cases ys with
    | nil => simp at h
    | cons y ys =>
      have hlen : xs.length = ys.length := Nat.succ.inj h
      obtain ⟨hxd, hxs⟩ := List.forall_mem_cons.mp hx
      obtain ⟨hyd, hys⟩ := List.forall_mem_cons.mp hy
      -- the first digits decide, and where they agree the digits behind them
      have hDigit := digit_lt_iff hxd hyd
      have hTail : digitsValue ys < 10 ^ xs.length := hlen ▸ digitsValue_lt hys
      rw [List.cons_lt_cons_iff, ih hxs hys hlen, hDigit.1, hDigit.2, digitsValue_cons,
        digitsValue_cons, ← hlen, mul_add_lt_iff (digitsValue_lt hxs) hTail]

/-- Numbers in as many digits, with more text behind them: the numbers are compared first. -/
theorem padded_append_lt_iff {width m n : Nat} {us vs : List Char} (hw : 0 < width)
    (hm : m < pow10 width) (hn : n < pow10 width) :
    (paddedNat width m).toList ++ us < (paddedNat width n).toList ++ vs ↔
      m < n ∨ m = n ∧ us < vs := by
  have hLength : (paddedNat width m).toList.length = (paddedNat width n).toList.length :=
    (length_padded hw hm).trans (length_padded hw hn).symm
  have hSame : (paddedNat width m).toList = (paddedNat width n).toList ↔ m = n := by
    refine ⟨fun h => ?_, fun h => h ▸ rfl⟩
    rw [← digitsValue_padded width m, h, digitsValue_padded]
  rw [append_lt_append_iff hLength, hSame, digits_lt_iff (fun _ => isDigit_of_mem_padded)
    (fun _ => isDigit_of_mem_padded) hLength, digitsValue_padded, digitsValue_padded]

theorem compare_eq_lt_iff {s t : String} : compare s t = .lt ↔ s < t := compareOfLessAndEq_eq_lt

/-- Things are compared as their texts are, if the texts come one before the other as the things
do. -/
theorem compare_eq_of_lt_iff {α : Type} {spell : α → String} {cmp : α → α → Ordering}
    (hSwap : ∀ a b, (cmp a b).swap = cmp b a) (hLess : ∀ a b, spell a < spell b ↔ cmp a b = .lt)
    (hSame : ∀ a b, cmp a b = .eq → spell a = spell b) (a b : α) :
    Ord.compare (spell a) (spell b) = cmp a b := by
  cases h : cmp a b with
  | lt => exact compare_eq_lt_iff.mpr ((hLess a b).mpr h)
  | eq =>
    rw [hSame a b h]
    exact Std.ReflCmp.compare_self
  | gt =>
    have hSwapped : cmp b a = .lt := by rw [← hSwap, h]; rfl
    exact Std.OrientedCmp.gt_of_lt (compare_eq_lt_iff.mpr ((hLess b a).mpr hSwapped))

end Text

/-! ## Days in order -/

namespace Date

theorem year_lt (d : Date) : d.year < Number.pow10 4 := Nat.lt_of_le_of_lt d.isDay.2.1 (by decide)

theorem month_lt (d : Date) : d.month < Number.pow10 2 :=
  Nat.lt_of_le_of_lt d.isDay.month_le.2 (by decide)

theorem day_lt (d : Date) : d.day < Number.pow10 2 := Nat.lt_of_le_of_lt d.isDay.day_le (by decide)

theorem compare_eq_lt_iff {a b : Date} :
    a.compare b = .lt ↔ a.year < b.year ∨ a.year = b.year ∧
      (a.month < b.month ∨ a.month = b.month ∧ a.day < b.day) := by
  simp [compare, Ordering.then_eq_lt, Nat.compare_eq_lt]

theorem compare_eq_eq_iff {a b : Date} : a.compare b = .eq ↔ a = b := by
  obtain ⟨y, m, d, h⟩ := a
  obtain ⟨y', m', d', h'⟩ := b
  simp [compare, Ordering.then_eq_eq]

theorem compare_swap (a b : Date) : (a.compare b).swap = b.compare a := by
  simp [compare, Ordering.swap_then, Nat.compare_swap]

theorem text_lt_iff {a b : Date} : a.text < b.text ↔ a.compare b = .lt := by
  have hToList : ∀ d : Date, d.text.toList = (Text.paddedNat 4 d.year).toList ++ '-' ::
      ((Text.paddedNat 2 d.month).toList ++ '-' :: ((Text.paddedNat 2 d.day).toList ++ [])) := by
    intro d
    simp [Date.text]
  rw [String.lt_iff, hToList, hToList,
    Text.padded_append_lt_iff (by decide) a.year_lt b.year_lt, List.cons_lt_cons_self,
    Text.padded_append_lt_iff (by decide) a.month_lt b.month_lt, List.cons_lt_cons_self,
    Text.padded_append_lt_iff (by decide) a.day_lt b.day_lt, compare_eq_lt_iff]
  simp

/-- **Stored days are in chronological order.** -/
theorem compare_text (a b : Date) : Ord.compare a.text b.text = a.compare b :=
  Text.compare_eq_of_lt_iff compare_swap (fun _ _ => text_lt_iff)
    (fun _ _ h => congrArg Date.text (compare_eq_eq_iff.mp h)) a b

end Date

/-! ## Wall clocks in order -/

theorem TimeOfDay.micros_lt_iff {a b : TimeOfDay} :
    a.micros < b.micros ↔ a.hour < b.hour ∨ a.hour = b.hour ∧ (a.minute < b.minute ∨
      a.minute = b.minute ∧ (a.second < b.second ∨ a.second = b.second ∧ a.micro < b.micro)) := by
  have := a.inRange
  have := b.inRange
  simp only [micros]
  omega

theorem TimeOfDay.micros_inj {a b : TimeOfDay} : a.micros = b.micros ↔ a = b := by
  refine ⟨fun h => ?_, fun h => h ▸ rfl⟩
  obtain ⟨hour, minute, second, micro, ha⟩ := a
  obtain ⟨hour', minute', second', micro', hb⟩ := b
  simp only [micros] at h
  simp only [TimeOfDay.mk.injEq]
  omega

namespace DateTime

/-- Chronological order of what two wall clocks show; offsets do not count. -/
def compareWall (a b : DateTime) : Ordering :=
  (a.date.compare b.date).then (Ord.compare a.time.micros b.time.micros)

/-- Does one wall clock show an earlier time than another? -/
def Before (a b : DateTime) : Prop := a.compareWall b = .lt

/-- Does one wall clock show no later time than another? -/
def NotAfter (a b : DateTime) : Prop := a.compareWall b ≠ .gt

instance (a b : DateTime) : Decidable (a.Before b) := inferInstanceAs (Decidable (_ = _))

instance (a b : DateTime) : Decidable (a.NotAfter b) := inferInstanceAs (Decidable (_ ≠ _))

theorem compareWall_swap (a b : DateTime) : (a.compareWall b).swap = b.compareWall a := by
  simp [compareWall, Ordering.swap_then, Date.compare_swap, Nat.compare_swap]

theorem compareWall_eq_eq_iff {a b : DateTime} : a.compareWall b = .eq ↔ a.wall = b.wall := by
  simp [compareWall, Ordering.then_eq_eq, Date.compare_eq_eq_iff, TimeOfDay.micros_inj, wall]

/-- A bound may be moved to a later time of its day. -/
theorem NotAfter.of_later_time {t a b : DateTime} (h : t.NotAfter a) (hDay : a.date = b.date)
    (hTime : a.time.micros ≤ b.time.micros) : t.NotAfter b := by
  have hWeaken : ∀ {o p q : Ordering}, (p ≠ .gt → q ≠ .gt) → o.then p ≠ .gt → o.then q ≠ .gt := by
    intro o p q h
    cases o
    · exact id
    · exact h
    · exact id
  rw [NotAfter, compareWall, hDay] at h
  -- where the days agree, the times decide
  refine hWeaken (fun hle => ?_) h
  rw [Nat.compare_ne_gt] at hle ⊢
  exact Nat.le_trans hle hTime

theorem toList_storedText (t : DateTime) :
    t.storedText.toList = (Text.paddedNat 4 t.date.year).toList ++ '-' ::
      ((Text.paddedNat 2 t.date.month).toList ++ '-' :: ((Text.paddedNat 2 t.date.day).toList ++
      ' ' :: ((Text.paddedNat 2 t.time.hour).toList ++ ':' ::
      ((Text.paddedNat 2 t.time.minute).toList ++ ':' :: ((Text.paddedNat 2 t.time.second).toList ++
      '.' :: ((Text.paddedNat 6 t.time.micro).toList ++ [])))))) := by
  simp [storedText, TimeOfDay.clockText, Date.text]

theorem storedText_wall (t : DateTime) : t.wall.storedText = t.storedText := rfl

theorem storedText_lt_iff {a b : DateTime} :
    a.storedText < b.storedText ↔ a.compareWall b = .lt := by
  have hour : ∀ t : DateTime, t.time.hour < Number.pow10 2 := fun t =>
    Nat.lt_trans t.time.inRange.1 (by decide)
  have hMinute : ∀ t : DateTime, t.time.minute < Number.pow10 2 := fun t =>
    Nat.lt_trans t.time.inRange.2.1 (by decide)
  have hSecond : ∀ t : DateTime, t.time.second < Number.pow10 2 := fun t =>
    Nat.lt_trans t.time.inRange.2.2.1 (by decide)
  have hMicro : ∀ t : DateTime, t.time.micro < Number.pow10 6 := fun t => t.time.inRange.2.2.2
  -- number by number, from the year on; the marks between them agree
  rw [String.lt_iff, toList_storedText, toList_storedText,
    Text.padded_append_lt_iff (by decide) a.date.year_lt b.date.year_lt, List.cons_lt_cons_self,
    Text.padded_append_lt_iff (by decide) a.date.month_lt b.date.month_lt, List.cons_lt_cons_self,
    Text.padded_append_lt_iff (by decide) a.date.day_lt b.date.day_lt, List.cons_lt_cons_self,
    Text.padded_append_lt_iff (by decide) (hour a) (hour b), List.cons_lt_cons_self,
    Text.padded_append_lt_iff (by decide) (hMinute a) (hMinute b), List.cons_lt_cons_self,
    Text.padded_append_lt_iff (by decide) (hSecond a) (hSecond b), List.cons_lt_cons_self,
    Text.padded_append_lt_iff (by decide) (hMicro a) (hMicro b)]
  rw [compareWall, Ordering.then_eq_lt, Date.compare_eq_lt_iff, Date.compare_eq_eq_iff,
    Nat.compare_eq_lt, TimeOfDay.micros_lt_iff]
  have hSame : a.date = b.date ↔
      a.date.year = b.date.year ∧ a.date.month = b.date.month ∧ a.date.day = b.date.day := by
    obtain ⟨⟨y, m, d, h⟩, _, _⟩ := a
    obtain ⟨⟨y', m', d', h'⟩, _, _⟩ := b
    simp
  have hNoMore : ¬([] : List Char) < [] := by simp
  rw [hSame]
  simp only [hNoMore, and_false, or_false]
  grind

/-- **Stored date-times are in chronological order.** -/
theorem compare_storedText (a b : DateTime) :
    Ord.compare a.storedText b.storedText = a.compareWall b := by
  refine Text.compare_eq_of_lt_iff compareWall_swap (fun _ _ => storedText_lt_iff)
    (fun a b h => ?_) a b
  rw [← storedText_wall a, compareWall_eq_eq_iff.mp h, storedText_wall]

end DateTime

end Winnow
