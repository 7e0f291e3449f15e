import Winnow.Proofs.Calendar.Order
import Winnow.Proofs.Filter.Argument
import Winnow.Proofs.Filter.Comparison
import Winnow.Proofs.Store.Answer

/-!
# Winnow.Proofs.Filter.Period — what a period selects

A period is given by a month or a day, or by two of them. Main statement: on a column of naive
date-times it selects the rows from the first moment of the first fragment to the last moment of the
last one, but for those in the last second of it that a whole second does not begin
(`Filter.period_selects`). The upper bound is the begin of that second, so a row in it is selected
neither by its own period nor by the next (`Filter.lastSecond_is_missed`).

On the way there each stage has one lemma: a fragment and its bounds (`Period.bound_text`), an
argument and its pieces (`bounds_of_spells`), the bounds and the date-times they spell
(`coerce_bounds`), and the truth of the comparison (`eval_between_iff`).
-/

namespace Winnow

namespace Filter

open Calendar.Iso (pair EndsInDigit)
open Text (paddedNat)

/-! ## Fragments -/

/-- A fragment of a period. -/
inductive Fragment where
  | month (year month : Nat) (isMonth : Calendar.IsDay year month 1)
  | day (date : Date)

namespace Fragment

/-- The text of a fragment. -/
def text : Fragment → String
  | month y m _ => paddedNat 4 y ++ "-" ++ paddedNat 2 m
  | day d => d.text

/-- The first day. -/
def first : Fragment → Date
  | month y m h => ⟨y, m, 1, h⟩
  | day d => d

/-- The last day. -/
def last : Fragment → Date
  | month y m h => ⟨y, m, Calendar.daysInMonth y m, h.1, h.2.1, Nat.le_trans h.2.2.1 h.2.2.2,
      Nat.le_refl _⟩
  | day d => d

/-- Does the day lie in it? -/
def Covers : Fragment → Date → Prop
  | month y m _, d => d.year = y ∧ d.month = m
  | day e, d => d = e

/-- Its first moment. -/
def start (f : Fragment) : DateTime := .atMidnight f.first

/-- Its last moment. -/
def finish (f : Fragment) : DateTime := ⟨f.last, .last, none⟩

/-- The begin of its last second. -/
def lastSecond (f : Fragment) : DateTime := ⟨f.last, ⟨23, 59, 59, 0, by decide⟩, none⟩

/-- Does the wall clock stand in its last second, past the begin of the second? -/
def Misses (f : Fragment) (t : DateTime) : Prop := f.lastSecond.Before t ∧ t.NotAfter f.finish

/-! ### Their days -/

theorem covers_iff (f : Fragment) (d : Date) :
    f.Covers d ↔ f.first.compare d ≠ .gt ∧ d.compare f.last ≠ .gt := by
  have hBefore : ∀ a b : Date, a.compare b ≠ .gt ↔ ¬ b.compare a = .lt := by
    intro a b
    rw [← Date.compare_swap b a]
    cases b.compare a <;> decide
  rw [hBefore, hBefore, Date.compare_eq_lt_iff, Date.compare_eq_lt_iff]
  cases f with
  | month y m h =>
    obtain ⟨y', m', d', h'⟩ := d
    simp only [Covers, first, last]
    constructor
    · -- no day of a month is after its last one
      rintro ⟨rfl, rfl⟩
      have := h'.2.2
      omega
    · intro h
      have := h'.2.2
      omega
  | day e =>
    obtain ⟨y, m, n, h⟩ := e
    obtain ⟨y', m', n', h'⟩ := d
    simp only [Covers, first, last, Date.mk.injEq]
    omega

/-- A wall clock stands in a fragment if its day lies in it. -/
theorem covers_iff_notAfter (f : Fragment) (t : DateTime) :
    f.Covers t.date ↔ f.start.NotAfter t ∧ t.NotAfter f.finish := by
  have hDays : ∀ {o p : Ordering}, p ≠ .gt → (o.then p ≠ .gt ↔ o ≠ .gt) := by
    intro o p hp
    cases o <;> simp [Ordering.then, hp]
  -- no time of the day is before midnight or after the last moment
  have hMidnight : Ord.compare TimeOfDay.midnight.micros t.time.micros ≠ .gt :=
    Nat.compare_ne_gt.mpr (Nat.zero_le _)
  have hMidnight' : Ord.compare t.time.micros TimeOfDay.last.micros ≠ .gt := by
    have := t.time.inRange
    refine Nat.compare_ne_gt.mpr ?_
    simp only [TimeOfDay.micros, TimeOfDay.last]
    omega
  rw [covers_iff, DateTime.NotAfter, DateTime.NotAfter, DateTime.compareWall, DateTime.compareWall]
  exact and_congr (hDays hMidnight).symm (hDays hMidnight').symm

/-! ### Their texts -/

theorem toList_text (f : Fragment) : ∃ rest, f.text.toList = (paddedNat 4 f.first.year).toList ++
    '-' :: (pair f.first.month ++ rest) := by
  cases f with
  | month y m h => exact ⟨[], by simp [text, first, pair]⟩
  | day d => exact ⟨'-' :: pair d.day, by simp [text, first, Calendar.Iso.toList_dateText]⟩

theorem mem_text {f : Fragment} {c : Char} (h : c ∈ f.text.toList) : c.isDigit ∨ c = '-' := by
  cases f with
  | month y m _ =>
    simp only [text, String.toList_append, List.mem_append] at h
    rcases h with (h | h) | h
    · exact .inl (Text.isDigit_of_mem_padded h)
    · exact .inr (by simpa using h)
    · exact .inl (Text.isDigit_of_mem_padded h)
  | day d => exact Calendar.Iso.mem_dateText h

theorem head_text (f : Fragment) : ∀ c ∈ f.text.toList.head?, c.isDigit := by
  obtain ⟨rest, h⟩ := f.toList_text
  obtain ⟨c, cs, hcs, hc⟩ := Calendar.Iso.exists_cons_padded 4 f.first.year
  rw [h, hcs]
  rintro x ⟨⟩
  exact hc

theorem endsInDigit_text (f : Fragment) : EndsInDigit f.text.toList := by
  cases f with
  | month y m _ =>
    simp only [text, String.toList_append]
    exact (Calendar.Iso.endsInDigit_padded 2 m).append _
  | day d => exact Calendar.Iso.endsInDigit_dateText d

theorem comma_not_mem_text (f : Fragment) : ',' ∉ f.text.toList := by
  intro h
  rcases mem_text h with h | h
  · exact absurd h (by decide)
  · exact absurd h (by decide)

theorem trim_text (f : Fragment) : Text.trim f.text = f.text := by
  rw [Text.trim, Column.trimChars_of_digits f.head_text f.endsInDigit_text.getLast,
    String.ofList_toList]

theorem isAllBlank_text (f : Fragment) : Text.isAllBlank f.text = false := by
  obtain ⟨rest, h⟩ := f.toList_text
  obtain ⟨c, cs, hcs, hc⟩ := Calendar.Iso.exists_cons_padded 4 f.first.year
  have : Text.isBlank c = false := (Number.isNumeral_of_isDigit hc).isBlank_eq_false
  simp [Text.isAllBlank, h, hcs, this]

end Fragment

/-! ## Bounds -/

namespace Period

theorem digitsNumber_of_digits {cs : List Char} (h : ∀ c ∈ cs, c.isDigit) :
    digitsNumber cs = Number.digitsValue cs := by
  have hFold : ∀ n, cs.foldl (fun n c => n * 10 + (Text.digitValue? c).getD 0) n =
      cs.foldl (fun n c => n * 10 + (c.toNat - 48)) n := by
    induction cs with
    | nil => simp
    | cons c cs ih =>
      obtain ⟨hc, hcs⟩ := List.forall_mem_cons.mp h
      intro n
      rw [List.foldl_cons, List.foldl_cons, Text.digitValue?_of_isDigit hc]
      exact ih hcs _
  exact hFold 0

theorem isDecimalDigit_of_isDigit {c : Char} (h : c.isDigit) : Text.isDecimalDigit c = true := by
  rw [Text.isDecimalDigit, Text.digitValue?_of_isDigit h]
  rfl

/-- Two digits are two characters. -/
theorem exists_pair_eq {n : Nat} (h : n < 100) :
    ∃ a b, pair n = [a, b] ∧ a.isDigit ∧ b.isDigit := by
  have hLength : (pair n).length = 2 := Text.length_padded (by decide) h
  have hDigits : ∀ c ∈ pair n, c.isDigit := fun c hc => Text.isDigit_of_mem_padded hc
  match hab : pair n, hLength with
  | [a, b], _ => exact ⟨a, b, rfl, hDigits a (by simp [hab]), hDigits b (by simp [hab])⟩

/-- A month is four digits, a dash and two digits. -/
theorem month?_eq_some_iff {cs : List Char} {y m : Nat} :
    month? cs = some (y, m) ↔ ∃ year a b, cs = year ++ ['-', a, b] ∧ year.length = 4 ∧
      (∀ c ∈ year, Text.isDecimalDigit c = true) ∧ Text.isDecimalDigit a = true ∧
      Text.isDecimalDigit b = true ∧ digitsNumber year = y ∧ digitsNumber [a, b] = m := by
  constructor
  · intro h
    have hParts := List.take_append_drop 4 cs
    unfold month? at h
    dsimp only at h
    split at h
    · rename_i a b hRest
      split at h
      · rename_i hDigits
        simp only [Bool.and_eq_true, decide_eq_true_eq, List.all_eq_true] at hDigits
        obtain ⟨⟨⟨hLength, hYear⟩, ha⟩, hb⟩ := hDigits
        obtain ⟨rfl, rfl⟩ := Prod.mk.inj (Option.some.inj h)
        rw [hRest] at hParts
        exact ⟨cs.take 4, a, b, hParts.symm, hLength, hYear, ha, hb, rfl, rfl⟩
      · cases h
    · cases h
  · rintro ⟨year, a, b, rfl, hLength, hDigits, ha, hb, rfl, rfl⟩
    have hAll : year.all Text.isDecimalDigit = true := List.all_eq_true.mpr hDigits
    simp only [month?, List.take_left' hLength, List.drop_left' hLength, hLength, hAll, ha, hb]
    rfl

/-- Year and month are read from their digits. -/
theorem month?_text {y m : Nat} (hy : y < 10000) (hm : m < 100) :
    month? ((paddedNat 4 y).toList ++ '-' :: pair m) = some (y, m) := by
  obtain ⟨a, b, hab, ha, hb⟩ := exists_pair_eq hm
  have hDigits : ∀ c ∈ (paddedNat 4 y).toList, c.isDigit := fun _ => Text.isDigit_of_mem_padded
  have hMonth : digitsNumber [a, b] = m := by
    rw [digitsNumber_of_digits (by simp [ha, hb]), ← hab]
    exact Text.digitsValue_padded 2 m
  refine month?_eq_some_iff.mpr ⟨(paddedNat 4 y).toList, a, b, by rw [hab],
    Text.length_padded (by decide) hy, fun c hc => isDecimalDigit_of_isDigit (hDigits c hc),
    isDecimalDigit_of_isDigit ha, isDecimalDigit_of_isDigit hb, ?_, hMonth⟩
  rw [digitsNumber_of_digits hDigits, Text.digitsValue_padded]

/-- The text of a day goes on where a month would end, so it is no month. -/
theorem month?_dateText (d : Date) : month? d.text.toList = none ∧ isDay d.text.toList = true := by
  have hYear : d.year < 10000 := Nat.lt_of_le_of_lt d.isDay.2.1 (by decide)
  have hMonth : d.month < 100 := Nat.lt_of_le_of_lt d.isDay.month_le.2 (by decide)
  have hLength : (paddedNat 4 d.year).toList.length = 4 := Text.length_padded (by decide) hYear
  obtain ⟨a, b, hab, -, -⟩ := exists_pair_eq hMonth
  obtain ⟨a', b', hab', ha', hb'⟩ :=
    exists_pair_eq (n := d.day) (Nat.lt_of_le_of_lt d.isDay.day_le (by decide))
  have hText : d.text.toList =
      ((paddedNat 4 d.year).toList ++ '-' :: pair d.month) ++ '-' :: [a', b'] := by
    simp [Calendar.Iso.toList_dateText, hab']
  have hHead : ((paddedNat 4 d.year).toList ++ '-' :: pair d.month).length = 7 := by
    simp [hLength, hab]
  have hRead := month?_text hYear hMonth
  -- a dash stands where the text of a month ends
  constructor
  · have hDrop : d.text.toList.drop 4 = '-' :: a :: b :: '-' :: [a', b'] := by
      rw [hText, List.append_assoc, List.drop_left' hLength, hab]
      rfl
    simp [month?, hDrop]
  · simp only [isDay, hText, List.drop_left' hHead, List.take_left' hHead, hRead]
    simp [isDecimalDigit_of_isDigit ha', isDecimalDigit_of_isDigit hb']

/-- **Bounds.** A fragment stands for its first and for its last second. -/
theorem bound_text (upper : Bool) (f : Fragment) :
    bound upper f.text =
      .ok (if upper then f.last.text ++ " 23:59:59" else f.first.text ++ " 00:00:00") := by
  cases f with
  | month y m h =>
    have hm := h.month_le
    have hRead : month? (Fragment.month y m h).text.toList = some (y, m) := by
      have hText : (Fragment.month y m h).text.toList =
          (paddedNat 4 y).toList ++ '-' :: pair m := by
        simp [Fragment.text, pair]
      rw [hText]
      exact month?_text (Nat.lt_of_le_of_lt h.2.1 (by decide))
        (Nat.lt_of_le_of_lt hm.2 (by decide))
    have hInYear : (decide (m < 1) || decide (12 < m)) = false := by
      simp
      omega
    have hFirst : (Fragment.month y m h).text ++ "-01 00:00:00" =
        (Fragment.month y m h).first.text ++ " 00:00:00" := by
      simp only [Fragment.text, Fragment.first, Date.text, String.append_assoc]
      rfl
    have hLast : (Fragment.month y m h).text ++ "-" ++
        paddedNat 2 (Calendar.daysInMonth y m) ++ " 23:59:59" =
          (Fragment.month y m h).last.text ++ " 23:59:59" := by
      simp only [Fragment.text, Fragment.last, Date.text, String.append_assoc]
    simp only [bound, hRead, hInYear]
    cases upper
    · exact congrArg Except.ok hFirst
    · exact congrArg Except.ok hLast
  | day d =>
    have hRead := month?_dateText d
    cases upper <;> simp [bound, Fragment.text, Fragment.first, Fragment.last, hRead.1, hRead.2]

end Period

/-! ## Arguments -/

/-- Does the argument stand for the period from one fragment to another? A single fragment is both;
two stand with a comma between them, or in a list. -/
inductive IsPeriod : Value → Fragment → Fragment → Prop
  | single (x : Fragment) : IsPeriod (.text x.text) x x
  | pair (x y : Fragment) : IsPeriod (.text (x.text ++ "," ++ y.text)) x y
  | list (x y : Fragment) : IsPeriod (.list [.text x.text, .text y.text]) x y

/-- Texts of fragments are trimmed, and not blank. -/
theorem pieces_of_split {s : String} {xs : List Fragment}
    (h : Text.split ',' s = xs.map Fragment.text) : Text.pieces s = xs.map Fragment.text := by
  rw [Text.pieces, h, List.map_map]
  have hKeep : (Text.trim ∘ Fragment.text) = Fragment.text := funext Fragment.trim_text
  rw [hKeep, List.filter_eq_self]
  intro t ht
  obtain ⟨x, -, rfl⟩ := List.mem_map.mp ht
  simp [x.isAllBlank_text]

/-- Are the pieces of the argument two fragments, or a single one that stands for both? -/
def Spells (v : Value) (x y : Fragment) : Prop :=
  v.splitList.map Value.display = [x.text, y.text] ∨
    x = y ∧ v.splitList.map Value.display = [x.text]

theorem spells_of_isPeriod {v : Value} {x y : Fragment} (h : IsPeriod v x y) : Spells v x y := by
  cases h with
  | single =>
    have hSplit : Text.split ',' x.text = [x].map Fragment.text := by
      simp [Text.split, Text.splitChars_of_not_mem x.comma_not_mem_text]
    exact .inr ⟨rfl, by rw [Value.splitList_text, pieces_of_split hSplit]; rfl⟩
  | pair =>
    have hText : (x.text ++ "," ++ y.text).toList = x.text.toList ++ ',' :: y.text.toList := by
      simp
    have hSplit : Text.split ',' (x.text ++ "," ++ y.text) = [x, y].map Fragment.text := by
      simp [Text.split, hText, Text.splitChars_append x.comma_not_mem_text,
        Text.splitChars_of_not_mem y.comma_not_mem_text]
    exact .inl (by rw [Value.splitList_text, pieces_of_split hSplit]; rfl)
  | list =>
    have hUnfolded : (Value.list [.text x.text, .text y.text]).splitList =
        ([Value.text x.text, .text y.text].map Value.trimmed).filter (!·.isBlank) := rfl
    refine .inl ?_
    rw [hUnfolded]
    simp [Value.trimmed_text, Fragment.trim_text, Value.isBlank_text, Fragment.isAllBlank_text,
      Value.display_text]

/-- No piece of a blank argument begins with a digit. -/
theorem head_of_isBlank {v : Value} (h : v.isBlank = true) :
    ∀ s ∈ v.splitList.map Value.display, ∀ c ∈ s.toList.head?, c.isDigit = false := by
  have hSingle {s : String} {d : Char} (hBegins : s.toList.head? = some d)
      (hOther : d.isDigit = false) : ∀ t ∈ [s], ∀ c ∈ t.toList.head?, c.isDigit = false := by
    rw [List.forall_mem_singleton, hBegins]
    exact fun c hc => Option.some.inj hc ▸ hOther
  -- of blank arguments only null and the empty mapping have a piece, which is their text
  cases v with
  | null =>
    have hPieces : Value.null.splitList.map Value.display = ["None"] := by decide
    exact hPieces ▸ hSingle (d := 'N') rfl rfl
  | text s =>
    rw [Value.splitList_text, Text.pieces_of_isAllBlank h]
    exact nofun
  | list xs | tuple xs | set xs =>
    obtain rfl := List.isEmpty_iff.mp h
    exact nofun
  | mapping es =>
    obtain rfl := List.isEmpty_iff.mp h
    have hPieces : (Value.mapping []).splitList.map Value.display = ["\x7b\x7d"] := by decide
    exact hPieces ▸ hSingle (d := '\x7b') rfl rfl
  | _ => cases h

theorem isBlank_of_spells {v : Value} {x y : Fragment} (h : Spells v x y) : v.isBlank = false := by
  by_contra hBlank
  have hNoDigit : ∀ c ∈ x.text.toList.head?, c.isDigit = false := by
    refine head_of_isBlank (by simpa using hBlank) x.text ?_
    rcases h with h | ⟨-, h⟩ <;> simp [h]
  obtain ⟨rest, hText⟩ := x.toList_text
  obtain ⟨c, cs, hcs, hc⟩ := Calendar.Iso.exists_cons_padded 4 x.first.year
  have hHead : c ∈ x.text.toList.head? := by simp [hText, hcs]
  rw [hNoDigit c hHead] at hc
  cases hc

/-- The bounds of a period. -/
theorem bounds_of_spells {v : Value} {x y : Fragment} (h : Spells v x y) :
    Period.bounds v = .ok (x.first.text ++ " 00:00:00", y.last.text ++ " 23:59:59") := by
  have hLower := Period.bound_text false x
  have hUpper := Period.bound_text true y
  rcases h with h | ⟨rfl, h⟩
  · obtain ⟨a, rest, hItems, ha, hRest⟩ := List.map_eq_cons_iff.mp h
    obtain ⟨b, rest, rfl, hb, hNil⟩ := List.map_eq_cons_iff.mp hRest
    obtain rfl := List.map_eq_nil_iff.mp hNil
    simp only [Period.bounds, hItems, ha, hb, hLower, hUpper]
    rfl
  · obtain ⟨a, rest, hItems, ha, hNil⟩ := List.map_eq_cons_iff.mp h
    obtain rfl := List.map_eq_nil_iff.mp hNil
    simp only [Period.bounds, hItems, ha, hLower, hUpper]
    rfl

/-! ## Rows -/

/-- Day, blank and clock are the text of a date-time. -/
theorem clock_eq_textWith (d : Date) {time : TimeOfDay} {clock : String} (h : time.text = clock) :
    d.text ++ (" " ++ clock) = (DateTime.mk d time none).textWith " " := by
  simp [DateTime.textWith, h, String.append_assoc]

/-- A naive date-time without a fraction is read from day, blank and clock. -/
theorem coerce_clock (name : String) (d : Date) {time : TimeOfDay} {clock : String}
    (h : time.text = clock) :
    (Column.mk name (.dateTime false)).coerce (.text (d.text ++ (" " ++ clock))) =
      .ok (.dateTime ⟨d, time, none⟩) := by
  simp only [Column.coerce]
  rw [clock_eq_textWith d h, Column.coerceDateTime_textWith (c := ' ') rfl (.inr rfl) (by simp)]
  rfl

theorem text_midnight : TimeOfDay.midnight.text = "00:00:00" := by decide

theorem text_lastSecond : (TimeOfDay.mk 23 59 59 0 (by decide)).text = "23:59:59" := rfl

/-- The bounds of fragments are read as the date-times that they spell. -/
theorem coerce_bounds (name : String) (x y : Fragment) :
    (Column.mk name (.dateTime false)).coerce (.text (x.first.text ++ " 00:00:00")) =
        .ok (.dateTime x.start) ∧
      (Column.mk name (.dateTime false)).coerce (.text (y.last.text ++ " 23:59:59")) =
        .ok (.dateTime y.lastSecond) := by
  have hLower := coerce_clock name x.first text_midnight
  have hUpper := coerce_clock name y.last text_lastSecond
  exact ⟨hLower, hUpper⟩

section Between

variable {db : Database} {r : Row} {c : Column} {t : DateTime}

theorem compareStored_dateTime (hKind : c.kind = .dateTime false) (comparison : Comparison)
    (t u : DateTime) :
    Condition.compareStored c comparison (.text t.storedText) (Condition.compared c (.dateTime u)) =
      some (comparison.holds (t.compareWall u)) := by
  have hBound : Condition.compared c (.dateTime u) = .text u.storedText := by
    rw [Condition.compared, hKind]
    rfl
  rw [hBound, Condition.compareStored, hKind, ← DateTime.compare_storedText]
  rfl

/-- The order of the cell and the bounds decides. -/
theorem eval_between_iff (hKind : c.kind = .dateTime false)
    (hCell : r.cell c.name = .value (.dateTime t)) (lower upper : DateTime) :
    Condition.eval db r (.between c (.dateTime lower) (.dateTime upper)) = some true ↔
      lower.NotAfter t ∧ t.NotAfter upper := by
  have hStored : (r.cell c.name).stored = .text t.storedText := by rw [hCell]; rfl
  rw [Condition.eval, hStored, compareStored_dateTime hKind, compareStored_dateTime hKind,
    DateTime.NotAfter, DateTime.NotAfter, ← DateTime.compareWall_swap lower t]
  cases lower.compareWall t <;> cases t.compareWall upper <;> decide

/-- A statement with one range is answered if the store takes its bounds. -/
theorem all_between (m : Model) (dialect : String) {lower upper : Value} {a b : Stored}
    (hLower : Condition.binding c.kind lower = .ok a)
    (hUpper : Condition.binding c.kind upper = .ok b) :
    ((Selection.ofModel m dialect).gather [.between c lower upper]).all db =
      .ok (((Selection.ofModel m dialect).gather [.between c lower upper]).ordered db) := by
  have hRefusals : ((Selection.ofModel m dialect).gather [.between c lower upper]).refusals = [] := by
    simp [Selection.refusals, Selection.gather, Selection.ofModel, Condition.allBindings,
      Condition.bindings, hLower, hUpper, Condition.refusals]
  refine (Selection.all_eq_ok_iff rfl).mpr ⟨?_, rfl⟩
  refine Selection.check_of_isFaultless (Selection.refusal?_rows hRefusals rfl) ?_
  simp [Selection.gather, Selection.ofModel, Condition.isFaultless]

/-- The date-time of a cell. -/
def moment? : Cell → Option DateTime
  | .value (.dateTime t) => some t
  | _ => none

/-- Where all cells of the column hold date-times, a range selects by these. -/
theorem matching_between {m : Model} {dialect : String} (hKind : c.kind = .dateTime false)
    (hCells : ∀ r ∈ db.rows m, (moment? (r.cell c.name)).isSome = true) (lower upper : DateTime) :
    ((Selection.ofModel m dialect).gather [.between c (.dateTime lower) (.dateTime upper)]).matching
        db =
      (db.rows m).filter fun r => (moment? (r.cell c.name)).any fun t =>
        decide (lower.NotAfter t ∧ t.NotAfter upper) := by
  refine List.filter_congr fun r hr => Bool.eq_iff_iff.mpr ?_
  obtain ⟨t, hMoment⟩ := Option.isSome_iff_exists.mp (hCells r hr)
  have hCell : r.cell c.name = .value (.dateTime t) := by
    cases hHeld : r.cell c.name with
    | null => rw [hHeld] at hMoment; cases hMoment
    | document j => rw [hHeld] at hMoment; cases hMoment
    | value v =>
      rw [hHeld] at hMoment
      cases v <;> cases hMoment
      rfl
  rw [hMoment, Option.any_some, decide_eq_true_iff, ← eval_between_iff hKind hCell]
  exact (Condition.holdsAll_iff ..).trans List.forall_mem_singleton

end Between

namespace Fragment

theorem lastSecond_before_iff (f : Fragment) (t : DateTime) :
    f.lastSecond.Before t ↔ ¬ t.NotAfter f.lastSecond := by
  rw [DateTime.Before, DateTime.NotAfter, ← DateTime.compareWall_swap f.lastSecond t]
  cases f.lastSecond.compareWall t <;> decide

/-- The begin of the last second is not after the end. -/
theorem notAfter_finish {f : Fragment} {t : DateTime} (h : t.NotAfter f.lastSecond) :
    t.NotAfter f.finish := by
  have hOrdered : (TimeOfDay.mk 23 59 59 0 (by decide)).micros ≤ TimeOfDay.last.micros := by decide
  exact h.of_later_time rfl hOrdered

/-- Past the begin of its last second a fragment is missed up to its end. -/
theorem notAfter_lastSecond_iff (f : Fragment) (t : DateTime) :
    t.NotAfter f.lastSecond ↔ t.NotAfter f.finish ∧ ¬ f.Misses t := by
  rw [Misses, lastSecond_before_iff]
  by_cases h : t.NotAfter f.lastSecond
  · simp [h, notAfter_finish h]
  · simp [h]

end Fragment

/-- The one call of an entry for a period. -/
theorem calls_period {o : Options} {dialect column : String} {key operator v : Value}
    {x y : Fragment} (hEdits : o.edits = [])
    (hField : ¬ o.IsTerm (key, .mapping [(operator, v)]))
    (hRead : FieldPath.read o.externalId key = .ok ⟨[], column⟩)
    (hOperator : operatorOf operator = .ok .between) (hSpells : Spells v x y) :
    o.calls dialect (.mapping [(key, .mapping [(operator, v)])]) =
      [.between column (.text (x.first.text ++ " 00:00:00"))
        (.text (y.last.text ++ " 23:59:59"))] := by
  have hNotBlank : ¬ (Operator.between ≠ .notNull ∧ v.isBlank = true) := by
    simp [isBlank_of_spells hSpells]
  rw [Options.calls_of_operator hEdits hField hRead rfl hOperator, if_neg hNotBlank, leafCalls,
    bounds_of_spells hSpells]
  rfl

/-- A period of naive date-times is looked up as one range, from the start of the first fragment to
the begin of the last second of the last one. -/
theorem callAll_period {s : Schema} {o : Options} {m : Model} {dialect : String}
    {key operator v : Value} {c : Column} {x y : Fragment} (hEdits : o.edits = [])
    (hField : ¬ o.IsTerm (key, .mapping [(operator, v)]))
    (hRead : FieldPath.read o.externalId key = .ok ⟨[], c.name⟩)
    (hOperator : operatorOf operator = .ok .between) (hColumn : m.column? c.name = some c)
    (hKind : c.kind = .dateTime false) (hPeriod : IsPeriod v x y) :
    (Selection.ofModel m dialect).callAll s
        (o.calls dialect (.mapping [(key, .mapping [(operator, v)])])) =
      ((Selection.ofModel m dialect).gather
        [.between c (.dateTime x.start) (.dateTime y.lastSecond)], none) := by
  obtain ⟨name, kind⟩ := c
  cases hKind
  have hCondition : Condition.ofCalls s dialect m
      (o.calls dialect (.mapping [(key, .mapping [(operator, v)])])) =
        .ok [.between ⟨name, .dateTime false⟩ (.dateTime x.start) (.dateTime y.lastSecond)] := by
    have hBounds := coerce_bounds name x y
    rw [calls_period hEdits hField hRead hOperator (spells_of_isPeriod hPeriod)]
    simp [Condition.ofCalls, Condition.ofCall?, Condition.column, hColumn, hBounds.1, hBounds.2,
      bind, Except.bind, pure, Except.pure]
  exact (Selection.callAll_eq_iff (s := Selection.ofModel m dialect)
    Options.isFilter_of_mem_calls rfl).mpr ⟨_, hCondition, rfl⟩

/-- **What a period selects.** The operator of periods, on a column of naive date-times, is answered
for every argument that stands for a period. A row whose cell holds a date-time is selected exactly
if the date-time is at or after the start of the first fragment and not after the end of the last
one, unless it lies in the last second past the begin of that second. For a single fragment that is
to say that its day lies in the month, or is the day. -/
theorem period_selects (db : Database) (o : Options) (m : Model) (dialect : String)
    (key operator v : Value) (c : Column) (x y : Fragment) (hEdits : o.edits = [])
    (hField : ¬ o.IsTerm (key, .mapping [(operator, v)]))
    (hRead : FieldPath.read o.externalId key = .ok ⟨[], c.name⟩)
    (hOperator : operatorOf operator = .ok .between) (hColumn : m.column? c.name = some c)
    (hKind : c.kind = .dateTime false) (hPeriod : IsPeriod v x y) :
    ∃ s rows, (Selection.ofModel m dialect).callAll db.schema
        (o.calls dialect (.mapping [(key, .mapping [(operator, v)])])) = (s, none) ∧
      s.all db = .ok rows ∧ (∀ r ∈ rows, r ∈ db.rows m) ∧
      ∀ r ∈ db.rows m, ∀ t, r.cell c.name = .value (.dateTime t) →
        (r ∈ rows ↔ (x.start.NotAfter t ∧ t.NotAfter y.finish) ∧ ¬ y.Misses t) ∧
        (x = y → (r ∈ rows ↔ x.Covers t.date ∧ ¬ x.Misses t)) := by
  obtain ⟨name, kind⟩ := c
  cases hKind
  have hAnswer : ((Selection.ofModel m dialect).gather
      [.between ⟨name, .dateTime false⟩ (.dateTime x.start) (.dateTime y.lastSecond)]).all db =
        .ok _ := all_between m dialect rfl rfl
  have hMem := fun r => (Selection.mem_all_iff rfl hAnswer r).trans
    (Selection.mem_matching_iff db _ r)
  refine ⟨_, _, callAll_period hEdits hField hRead hOperator hColumn rfl hPeriod, hAnswer,
    fun r hr => ((hMem r).mp hr).1, fun r hr t hCell => ?_⟩
  have hEvaluated : (∀ c ∈ [Condition.between ⟨name, .dateTime false⟩ (.dateTime x.start)
      (.dateTime y.lastSecond)], Condition.eval db r c = some true) ↔
        (x.start.NotAfter t ∧ t.NotAfter y.finish) ∧ ¬ y.Misses t := by
    rw [List.forall_mem_singleton, eval_between_iff rfl hCell, Fragment.notAfter_lastSecond_iff,
      and_assoc]
  have hSelected := (hMem r).trans ((and_iff_right hr).trans hEvaluated)
  refine ⟨hSelected, ?_⟩
  rintro rfl
  rw [x.covers_iff_notAfter]
  exact hSelected

/-- The products of the shop that a period selects by the date-time of their creation. -/
def createdIn (period : String) : Selection × Option Error :=
  productsAfter [(.text "created_at", .mapping [(.text "btw", .text period)])]

theorem isDay_newYear : Calendar.IsDay 2024 1 1 := by decide

/-- A month of the shop's years. -/
def december : Fragment := .month 2023 12 (by decide)

/-- The next month. -/
def january : Fragment := .month 2024 1 isDay_newYear

theorem reaches_created : Options.default.Reaches Sample.shop.schema Sample.product
    (.text "created_at") [] Sample.product ⟨"created_at", .dateTime false⟩ where
  edits := rfl
  field := by decide
  read := FieldPath.read_eq_ok_iff.mpr (by decide)
  follow := rfl
  column := by decide
  ordered := rfl

/-- A period of creation is one range of date-times. -/
theorem createdIn_eq {period : String} {x y : Fragment} (h : IsPeriod (.text period) x y) :
    createdIn period = ((Selection.ofModel Sample.product "sqlite").gather
      [.between ⟨"created_at", .dateTime false⟩ (.dateTime x.start) (.dateTime y.lastSecond)],
        none) :=
  callAll_period reaches_created.edits (Bool.eq_false_iff.mp reaches_created.field)
    reaches_created.read (operatorOf_wireName .between) reaches_created.column rfl h

/-- The keys of the products that it selects. -/
theorem keys_createdIn {period : String} {x y : Fragment} (h : IsPeriod (.text period) x y) :
    ((createdIn period).1.matching Sample.shop).map (·.key) =
      ((Sample.shop.rows Sample.product).filter fun r => (moment? (r.cell "created_at")).any
        fun t => decide (x.start.NotAfter t ∧ t.NotAfter y.lastSecond)).map (·.key) := by
  rw [createdIn_eq h, matching_between rfl (by decide)]

/-- Two months around a new year. -/
theorem period_selects_aroundNewYear :
    ∃ s rows, createdIn "2023-12,2024-01" = (s, none) ∧ s.all Sample.shop = .ok rows ∧
      (s.matching Sample.shop).map (·.key) = [5, 7] ∧
      ∀ r ∈ Sample.shop.rows Sample.product, ∀ t, r.cell "created_at" = .value (.dateTime t) →
        (r ∈ rows ↔ (december.start.NotAfter t ∧ t.NotAfter january.finish) ∧
          ¬ january.Misses t) := by
  have hPeriod : IsPeriod (.text "2023-12,2024-01") december january := by
    have hText : december.text ++ "," ++ january.text = "2023-12,2024-01" := by decide
    exact hText ▸ .pair december january
  obtain ⟨s, rows, hRun, hAll, -, hRows⟩ := period_selects Sample.shop Options.default
    Sample.product "sqlite" (.text "created_at") (.text "btw") (.text "2023-12,2024-01")
    ⟨"created_at", .dateTime false⟩ december january rfl
    (Bool.eq_false_iff.mp reaches_created.field) reaches_created.read (operatorOf_wireName .between)
    reaches_created.column rfl hPeriod
  have hKeys := keys_createdIn hPeriod
  have hRun : createdIn "2023-12,2024-01" = (s, none) := hRun
  rw [hRun] at hKeys
  exact ⟨s, rows, hRun, hAll, hKeys.trans (by decide), fun r hr t ht => (hRows r hr t ht).1⟩

/-- A product was created in the last microsecond of a year. Its month does not select it, nor does
the month after it. -/
theorem lastSecond_is_missed :
    december.text = "2023-12" ∧ january.text = "2024-01" ∧
    (createdIn "2023-12").2.isNone ∧ (createdIn "2024-01").2.isNone ∧
    ∃ r ∈ Sample.shop.rows Sample.product, ∃ t, r.cell "created_at" = .value (.dateTime t) ∧
      december.Covers t.date ∧
      r.key ∉ ((createdIn "2023-12").1.matching Sample.shop).map (·.key) ∧
      r.key ∉ ((createdIn "2024-01").1.matching Sample.shop).map (·.key) := by
  have hTexts : december.text = "2023-12" ∧ january.text = "2024-01" := by decide
  have hDecember := hTexts.1 ▸ IsPeriod.single december
  have hJanuary := hTexts.2 ▸ IsPeriod.single january
  have hSeventh : (Sample.shop.rows Sample.product)[6]? = some (Sample.products.getD 6 default) := by
    rfl
  rw [keys_createdIn hDecember, keys_createdIn hJanuary, createdIn_eq hDecember,
    createdIn_eq hJanuary]
  exact ⟨hTexts.1, hTexts.2, rfl, rfl, _, List.mem_of_getElem? hSeventh,
    ⟨⟨2023, 12, 31, by decide⟩, .last, none⟩, rfl, ⟨rfl, rfl⟩, by decide,
    by decide⟩

end Filter

end Winnow
