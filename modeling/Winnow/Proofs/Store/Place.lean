import Winnow.Proofs.Number.Rounding
import Winnow.Proofs.Store.Answer
import Winnow.Proofs.Store.Coercion
import Winnow.Proofs.Store.Sorted

/-!
# Winnow.Proofs.Store.Place — where a cell stands to an argument

Columns of numbers, texts, days, points of time and identifiers are *ordered*: they make a value of
their type of every argument that they take (`Column.isOf_coerce`), and a cell stands somewhere to
that value, below, at or above it (`Column.place?`). It stands nowhere if the cell is null or the
value is not a number, and nowhere else (`Column.exists_place`).

All comparisons ask for that place, whichever way they come to it: an equality and the order
comparisons one by one (`Condition.compareStored_eq_true_iff`), a list item by item
(`Condition.eval_among_iff`, `Condition.eval_notAmong_iff`). So what each of them says of a row is
said in one form (`Column.Meets`): the place is there, and the comparison holds of it.
-/

namespace Winnow

/-! ## Values that can be compared -/

namespace Stored

theorem exists_compare? {a b : Stored} (ha : a ≠ null) (hb : b ≠ null) (ha' : a ≠ real .nan)
    (hb' : b ≠ real .nan) : ∃ o, compare? a b = some o := by
  rcases a with _ | i | (⟨s, m, q⟩ | ⟨_ | _⟩ | _) | s <;>
    rcases b with _ | j | (⟨s', m', q'⟩ | ⟨_ | _⟩ | _) | s'
  any_goals first | exact absurd rfl ha | exact absurd rfl hb | exact absurd rfl ha' |
    exact absurd rfl hb'
  -- numbers that are finite on both sides are compared by value, the others by their class
  case int.real.finite => exact ⟨_, Binary64.compareInt?_finite i s' m' q'⟩
  case real.finite.int => exact ⟨_, congrArg (Option.map _) (Binary64.compareInt?_finite j s m q)⟩
  case real.finite.real.finite => exact ⟨_, Binary64.compare?_finite s s' m m' q q'⟩
  all_goals exact ⟨_, rfl⟩

end Stored

namespace Binary64

theorem round_ne_nan (negative : Bool) (num den : Nat) : round negative num den ≠ nan := by
  rcases round_cases negative num den with ⟨m, q, h⟩ | h
  · rw [h]
    exact nofun
  · rw [h]
    exact nofun

theorem ofDecimal_ne_nan (negative : Bool) (digits : Nat) (exponent : Int) :
    ofDecimal negative digits exponent ≠ nan := by
  unfold ofDecimal
  dsimp only
  repeat' split
  · exact nofun
  · exact nofun
  · exact nofun
  · exact round_ne_nan _ _ _
  · exact round_ne_nan _ _ _

end Binary64

/-! ## Ordered columns -/

/-- Is the column one of numbers, texts, days, points of time or identifiers? -/
def ColumnKind.isOrdered : ColumnKind → Bool
  | .integer | .double | .decimal | .text | .date | .dateTime _ | .uuid => true
  | _ => false

namespace Value

/-- Is the value one of the type of an ordered column? -/
inductive IsOf : ColumnKind → Value → Prop
  | integer (n : Int) : IsOf .integer (.int n)
  | double (x : Binary64) : IsOf .double (.double x)
  | decimal (d : Decimal) : IsOf .decimal (.decimal d)
  | text {v : Value} (h : v.isText = true) : IsOf .text v
  | date (d : Date) : IsOf .date (.date d)
  | dateTime (zoned : Bool) (t : DateTime) : IsOf (.dateTime zoned) (.dateTime t)
  | uuid (u : Uuid) : IsOf .uuid (.uuid u)

/-- Is the value not a number? -/
def isNaN : Value → Bool
  | double .nan => true
  | decimal (.nan ..) => true
  | _ => false

variable {kind : ColumnKind} {v w : Value}

theorem IsOf.comparedKind_eq (h : w.IsOf kind) : w.comparedKind kind = kind := by
  cases h with
  | text h => cases w <;> first | rfl | cases h
  | _ => rfl

theorem ofDouble_ne_null {x : Binary64} (h : x ≠ .nan) : Stored.ofDouble x ≠ .null := by
  cases x with
  | nan => exact absurd rfl h
  | _ => exact nofun

/-- A value that the store takes is null there only if it is not a number. -/
theorem IsOf.bind_eq_ok {s : Stored} (h : w.IsOf kind) (hNumber : w.isNaN = false)
    (hBind : w.bind kind = .ok s) : s ≠ .null ∧ s ≠ .real .nan := by
  cases h with
  | integer n =>
    have hForm : (int n).bind .integer =
        if Stored.fits n then .ok (.int n) else .error .overflow := rfl
    rw [hForm] at hBind
    split at hBind
    · obtain rfl := Except.ok.inj hBind
      exact ⟨nofun, nofun⟩
    · cases hBind
  | double x =>
    obtain rfl : Stored.ofDouble x = s := Except.ok.inj hBind
    have hNumber : x ≠ .nan := by
      rintro rfl
      cases hNumber
    exact ⟨ofDouble_ne_null hNumber, Stored.ofDouble_ne_nan x⟩
  | decimal d =>
    -- a decimal is kept as the double next to it
    cases d with
    | finite negative c e =>
      obtain rfl : Stored.ofDouble (.ofDecimal negative c e) = s := Except.ok.inj hBind
      exact ⟨ofDouble_ne_null (Binary64.ofDecimal_ne_nan negative c e), Stored.ofDouble_ne_nan _⟩
    | infinite negative =>
      obtain rfl : Stored.real (.infinite negative) = s := Except.ok.inj hBind
      exact ⟨nofun, nofun⟩
    | nan => cases hNumber
  | text h =>
    obtain ⟨t, rfl⟩ : ∃ t, s = .text t := by
      cases w with
      | text t => exact ⟨t, (Except.ok.inj hBind).symm⟩
      | operator op => exact ⟨op.wireName, (Except.ok.inj hBind).symm⟩
      | _ => cases h
    exact ⟨nofun, nofun⟩
  | date d =>
    obtain rfl := Except.ok.inj hBind
    exact ⟨nofun, nofun⟩
  | dateTime zoned t =>
    obtain rfl := Except.ok.inj hBind
    exact ⟨nofun, nofun⟩
  | uuid u =>
    obtain rfl := Except.ok.inj hBind
    exact ⟨nofun, nofun⟩

end Value

namespace Column

variable {c : Column} {v w : Value}

/-- **An ordered column makes a value of its type** of everything but null, unless it refuses it. -/
theorem isOf_coerce (hOrdered : c.kind.isOrdered = true) (hSome : v ≠ .null)
    (h : c.coerce v = .ok w) : w.IsOf c.kind := by
  rw [coerce_of_ne_null c hSome] at h
  obtain ⟨name, kind⟩ := c
  cases kind with
  | integer =>
    obtain ⟨n, rfl⟩ := exists_of_coerceInt h
    exact .integer n
  | double =>
    obtain ⟨x, rfl⟩ := exists_of_coerceDouble h
    exact .double x
  | decimal =>
    obtain ⟨d, rfl⟩ := exists_of_coerceDecimal h
    exact .decimal d
  | date =>
    obtain ⟨d, rfl⟩ := exists_of_coerceDate h
    exact .date d
  | dateTime zoned =>
    obtain ⟨t, rfl⟩ := exists_of_coerceDateTime h
    exact .dateTime zoned _
  | uuid =>
    obtain ⟨u, rfl⟩ := exists_of_coerceUuid h
    exact .uuid u
  | text => exact .text (Except.ok.inj h ▸ isText_coerceText v)
  | _ => cases hOrdered

/-! ## The place of a cell -/

/-- Where the cell of a row stands to a value of the column. -/
def place? (c : Column) (w : Value) (x : Row) : Option Ordering :=
  Stored.compare? (x.cell c.name).stored
    (if c.kind.holdsText then (Condition.compared c w).toText else Condition.compared c w)

theorem compareStored_eq (c : Column) (comparison : Comparison) (w : Value) (x : Row) :
    Condition.compareStored c comparison (x.cell c.name).stored (Condition.compared c w) =
      (c.place? w x).map comparison.holds := rfl

theorem place?_of_isNull {x : Row} (h : (x.cell c.name).isNull = true) (w : Value) :
    c.place? w x = none := by
  have hStored : (x.cell c.name).stored = .null := by simpa [Cell.isNull] using h
  rw [place?, hStored]
  rfl

/-- Does the store take what the column makes of the argument? -/
def Takes (c : Column) (v : Value) : Prop :=
  ∃ w s, c.coerce v = .ok w ∧ Condition.binding c.kind w = .ok s

/-- Does the column make a number that is none of the argument? -/
def MakesNaN (c : Column) (v : Value) : Prop := ∃ w, c.coerce v = .ok w ∧ w.isNaN = true

/-- **Every cell has a place** that is not null, in relation to every argument of which the store
takes what the column makes, unless that is a number that is none. -/
theorem exists_place {x : Row} (hOrdered : c.kind.isOrdered = true) (hSome : v ≠ .null)
    (hTakes : c.Takes v) (hNumber : ¬ c.MakesNaN v) (hCell : (x.cell c.name).isNull = false) :
    ∃ w o, c.coerce v = .ok w ∧ c.place? w x = some o := by
  obtain ⟨w, s, hCoerce, hBinding⟩ := hTakes
  have hOf := isOf_coerce hOrdered hSome hCoerce
  have hNumeric : w.isNaN = false := Bool.eq_false_iff.mpr fun h => hNumber ⟨w, hCoerce, h⟩
  rw [Condition.binding, hOf.comparedKind_eq] at hBinding
  have hCompared : Condition.compared c w = s := by
    rw [Condition.compared, hOf.comparedKind_eq, Condition.parameter, hBinding]
  obtain ⟨hNull, hNaN⟩ := hOf.bind_eq_ok hNumeric hBinding
  have hStored : (x.cell c.name).stored ≠ .null := by simpa [Cell.isNull] using hCell
  have hCellNaN := Cell.stored_ne_nan (x.cell c.name)
  obtain ⟨o, ho⟩ : ∃ o, c.place? w x = some o := by
    rw [place?, hCompared]
    split
    · -- what is compared with texts is a text
      have hText : s.toText ≠ .null := by
        cases s with
        | null => exact absurd rfl hNull
        | _ => exact nofun
      have hTextNaN : s.toText ≠ .real .nan := by cases s <;> exact nofun
      exact Stored.exists_compare? hStored hText hCellNaN hTextNaN
    · exact Stored.exists_compare? hStored hNull hCellNaN hNaN
  exact ⟨w, o, hCoerce, ho⟩

/-- Does the cell of the row stand in the comparison to the argument? -/
def Meets (c : Column) (comparison : Comparison) (v : Value) (x : Row) : Prop :=
  ∃ w o, c.coerce v = .ok w ∧ c.place? w x = some o ∧ comparison.holds o = true

theorem not_meets_of_isNull {comparison : Comparison} {x : Row}
    (h : (x.cell c.name).isNull = true) : ¬ c.Meets comparison v x := by
  rintro ⟨w, o, -, hPlace, -⟩
  rw [place?_of_isNull h] at hPlace
  cases hPlace

/-- Comparisons of one argument ask for one place. -/
theorem meets_iff_of_place {comparison : Comparison} {x : Row} {o : Ordering}
    (hCoerce : c.coerce v = .ok w) (hPlace : c.place? w x = some o) :
    c.Meets comparison v x ↔ comparison.holds o = true := by
  constructor
  · rintro ⟨w', o', hCoerce', hPlace', hHolds⟩
    obtain rfl : w = w' := Except.ok.inj (hCoerce.symm.trans hCoerce')
    obtain rfl : o = o' := Option.some.inj (hPlace.symm.trans hPlace')
    exact hHolds
  · exact fun hHolds => ⟨w, o, hCoerce, hPlace, hHolds⟩

theorem coerceAll_eq_ok_iff {vs ws : List Value} :
    c.coerceAll vs = .ok ws ↔ List.Forall₂ (fun v w => c.coerce v = .ok w) vs ws := by
  induction vs generalizing ws with
  | nil =>
    rw [coerceAll, List.forall₂_nil_left_iff]
    exact ⟨fun h => (Except.ok.inj h).symm, fun h => congrArg Except.ok h.symm⟩
  | cons v vs ih =>
    rw [coerceAll, bind_eq_ok_iff, List.forall₂_cons_left_iff]
    constructor
    · rintro ⟨w, hHead, h⟩
      obtain ⟨rest, hRest, h⟩ := bind_eq_ok_iff.mp h
      exact ⟨w, rest, hHead, ih.mp hRest, (Except.ok.inj h).symm⟩
    · rintro ⟨w, rest, hHead, hRest, rfl⟩
      exact ⟨w, hHead, bind_eq_ok_iff.mpr ⟨rest, ih.mpr hRest, rfl⟩⟩

end Column

namespace Condition

variable {db : Database} {c : Column} {v w : Value} {x : Row} {vs ws : List Value}

/-! ## Comparisons by place -/

theorem ofEquality_of_isOf {kind : ColumnKind} (h : w.IsOf kind) (c : Column) (negated : Bool) :
    ofEquality c negated w = compare c (if negated then .notEqual else .equal) w := by
  cases h with
  | text h => cases w <;> first | rfl | cases h
  | _ => rfl

theorem ofOrder_of_isOf {kind : ColumnKind} (h : w.IsOf kind) (c : Column)
    (comparison : Comparison) : ofOrder c comparison w = .ok (compare c comparison w) := by
  cases h with
  | text h => cases w <;> first | rfl | cases h
  | _ => rfl

/-- **A comparison** holds of the rows whose cell stands in it to the argument. -/
theorem compareStored_eq_true_iff {comparison : Comparison} (hCoerce : c.coerce v = .ok w) :
    compareStored c comparison (x.cell c.name).stored (compared c w) = some true ↔
      c.Meets comparison v x := by
  rw [Column.compareStored_eq, Option.map_eq_some_iff]
  constructor
  · rintro ⟨o, hPlace, hHolds⟩
    exact ⟨w, o, hCoerce, hPlace, hHolds⟩
  · rintro ⟨w', o, hCoerce', hPlace, hHolds⟩
    obtain rfl : w = w' := Except.ok.inj (hCoerce.symm.trans hCoerce')
    exact ⟨o, hPlace, hHolds⟩

/-- The parameters of a list in an ordered column have the type of the column. -/
theorem isAmong_eq (h : ∀ w ∈ ws, w.IsOf c.kind) (a : Stored) :
    isAmong c a ws = ws.foldr (fun w rest => disjoin (compareStored c .equal a (compared c w)) rest)
      (some false) := by
  have hKind : Value.listKind c.kind ws = c.kind := by
    cases ws with
    | nil => rfl
    | cons w ws => exact (h w List.mem_cons_self).comparedKind_eq
  rw [isAmong, memberOf, hKind]
  refine List.foldr_ext _ _ _ fun w hw rest => ?_
  rw [compared, (h w hw).comparedKind_eq]

theorem foldr_disjoin_eq_true_iff {α : Type} (test : α → Option Bool) (as : List α) :
    as.foldr (fun a rest => disjoin (test a) rest) (some false) = some true ↔
      ∃ a ∈ as, test a = some true := by
  induction as with
  | nil => simp
  | cons a as ih => simp only [List.foldr_cons, disjoin_eq_true_iff, ih, List.exists_mem_cons_iff]

theorem disjoin_eq_false_iff (a b : Option Bool) :
    disjoin a b = some false ↔ a = some false ∧ b = some false := by
  rcases a with _ | _ | _ <;> rcases b with _ | _ | _ <;> decide

theorem foldr_disjoin_eq_false_iff {α : Type} (test : α → Option Bool) (as : List α) :
    as.foldr (fun a rest => disjoin (test a) rest) (some false) = some false ↔
      ∀ a ∈ as, test a = some false := by
  induction as with
  | nil => simp
  | cons a as ih => simp only [List.foldr_cons, disjoin_eq_false_iff, ih, List.forall_mem_cons]

/-- What a column makes of several arguments is what it makes of each of them. -/
theorem mem_iff_of_coerceAll (h : c.coerceAll vs = .ok ws) (w : Value) :
    w ∈ ws ↔ ∃ v ∈ vs, c.coerce v = .ok w := by
  have hPairs := Column.coerceAll_eq_ok_iff.mp h
  clear h
  induction hPairs with
  | nil => simp
  | cons hCoerce _ ih => simp [ih, hCoerce, eq_comm (a := w)]

theorem exists_of_coerceAll (h : c.coerceAll vs = .ok ws) : ∀ v ∈ vs, ∃ w, c.coerce v = .ok w := by
  have hPairs := Column.coerceAll_eq_ok_iff.mp h
  clear h
  induction hPairs with
  | nil => exact nofun
  | cons hCoerce _ ih => exact List.forall_mem_cons.mpr ⟨⟨_, hCoerce⟩, ih⟩

section List

variable (hOrdered : c.kind.isOrdered = true) (hSome : ∀ v ∈ vs, v ≠ .null)
  (h : c.coerceAll vs = .ok ws)

include hOrdered hSome h

theorem isOf_of_mem_coerceAll : ∀ w ∈ ws, w.IsOf c.kind := by
  intro w hw
  obtain ⟨v, hv, hCoerce⟩ := (mem_iff_of_coerceAll h w).mp hw
  exact Column.isOf_coerce hOrdered (hSome v hv) hCoerce

/-- **One of several values**: the cell is equal to one of them. -/
theorem eval_among_iff :
    eval db x (.among c ws) = some true ↔ ∃ v ∈ vs, c.Meets .equal v x := by
  rw [eval, isAmong_eq (isOf_of_mem_coerceAll hOrdered hSome h), foldr_disjoin_eq_true_iff]
  constructor
  · rintro ⟨w, hw, hEqual⟩
    obtain ⟨v, hv, hCoerce⟩ := (mem_iff_of_coerceAll h w).mp hw
    exact ⟨v, hv, (compareStored_eq_true_iff hCoerce).mp hEqual⟩
  · rintro ⟨v, hv, hMeets⟩
    obtain ⟨w, hCoerce⟩ := exists_of_coerceAll h v hv
    exact ⟨w, (mem_iff_of_coerceAll h w).mpr ⟨v, hv, hCoerce⟩,
      (compareStored_eq_true_iff hCoerce).mpr hMeets⟩

/-- **None of several values**: the cell is told from each of them. -/
theorem eval_notAmong_iff :
    eval db x (.notAmong c ws) = some true ↔ ∀ v ∈ vs, c.Meets .notEqual v x := by
  have hNot (a : Option Bool) : a.map (!·) = some true ↔ a = some false := by
    rcases a with _ | _ | _ <;> decide
  have hTold (w : Value) :
      compareStored c .equal (x.cell c.name).stored (compared c w) = some false ↔
        compareStored c .notEqual (x.cell c.name).stored (compared c w) = some true := by
    rw [Column.compareStored_eq, Column.compareStored_eq]
    rcases c.place? w x with _ | _ | _ | _ <;> decide
  rw [eval, hNot, isAmong_eq (isOf_of_mem_coerceAll hOrdered hSome h), foldr_disjoin_eq_false_iff]
  constructor
  · intro hAll v hv
    obtain ⟨w, hCoerce⟩ := exists_of_coerceAll h v hv
    have hw := hAll w ((mem_iff_of_coerceAll h w).mpr ⟨v, hv, hCoerce⟩)
    exact (compareStored_eq_true_iff hCoerce).mp ((hTold w).mp hw)
  · intro hAll w hw
    obtain ⟨v, hv, hCoerce⟩ := (mem_iff_of_coerceAll h w).mp hw
    exact (hTold w).mpr ((compareStored_eq_true_iff hCoerce).mpr (hAll v hv))

end List

end Condition

end Winnow
