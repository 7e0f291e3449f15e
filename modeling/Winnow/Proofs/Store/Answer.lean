import Winnow.Proofs.Store.Faultless
import Winnow.Proofs.Store.Gathering
import Mathlib.Tactic.Ring

/-!
# Winnow.Proofs.Store.Answer — which windows the store answers

A selection is *answered* if the store tells the number of its rows and takes its statement with the
parameters of a window (`Selection.IsAnswered`). To tell the number it tests every row of the table,
so no row goes wrong in any other query either. What is left to refuse are the parameters of the
window itself: it is answered exactly if its size and its place fit into 64 bits, and otherwise
refused because a number is too large (`IsAnswered.check_window`).

The cap is no part of this: it only decides which window is asked for.
-/

namespace Winnow

namespace Condition

namespace Test

variable {ts : List Test} {rows : List Row}

/-- If all rows are wanted, all are tested. -/
theorem allFault?_of_rowsFault? (h : rowsFault? ts none rows = none) :
    ∀ r ∈ rows, allFault? ts r = none := by
  induction rows with
  | nil => exact fun r hr => absurd hr List.not_mem_nil
  | cons r rows ih =>
    unfold rowsFault? at h
    cases hHere : allFault? ts r with
    | some e => simp [hHere] at h
    | none =>
      simp only [hHere, Option.map_none, ite_self] at h
      exact List.forall_mem_cons.mpr ⟨hHere, ih h⟩

end Test

theorem refusals_append (as bs : List Binding) : refusals (as ++ bs) = refusals as ++ refusals bs :=
  List.filterMap_append

theorem refusals_eq_nil_iff {bs : List Binding} :
    refusals bs = [] ↔ ∀ b ∈ bs, ∃ s, b = .ok s := by
  rw [refusals, List.filterMap_eq_nil_iff]
  refine forall_congr' fun b => forall_congr' fun _ => ?_
  cases b with
  | error e => simp
  | ok s => simp

end Condition

namespace Selection

variable {db : Database} {s : Selection} {q : Query}

/-! ## Rows that go wrong -/

/-- If no row goes wrong while rows are counted, none goes wrong in any query. -/
theorem fault?_of_count (h : s.fault? db .count = none) (q : Query) : s.fault? db q = none := by
  refine fault?_eq_none_of_rows (Condition.Test.allFault?_of_rowsFault? ?_)
  simpa [fault?, Query.isEmpty] using h

/-! ## Refused parameters -/

/-- The refusals of the parameters of the conditions. -/
def refusals (s : Selection) : List Error :=
  Condition.refusals (Condition.allBindings s.conditions)

/-- A statement that is taken has no refused parameter and can be read. -/
theorem refusals_of_refusal? (h : s.refusal? q = none) :
    s.refusals = [] ∧ s.isReadable q = true := by
  have hAll : Condition.refusals (Condition.allBindings s.conditions ++
      q.capParameters.map fun n => (Value.int n).bindPlain) = [] ∧ s.isReadable q = true := by
    revert h
    unfold refusal?
    dsimp only
    generalize Condition.refusals (Condition.allBindings s.conditions ++
      q.capParameters.map fun n => (Value.int n).bindPlain) = errors
    intro h
    repeat' split at h
    · cases h
    · cases h
    · rename_i hReadable
      exact ⟨List.head?_eq_none_iff.mp h, hReadable⟩
    · cases h
  rw [Condition.refusals_append, List.append_eq_nil_iff] at hAll
  exact ⟨hAll.1.1, hAll.2⟩

/-- Of the parameters of rows that are not cut there is none to refuse. -/
theorem refusal?_rows (hRefusals : s.refusals = []) (hReadable : s.isReadable .rows = true) :
    s.refusal? .rows = none := by
  rw [refusals] at hRefusals
  simp [refusal?, Query.capParameters, hRefusals, hReadable]

/-- Rows that are not cut are shown, unless the store cannot read the statement or a row goes
wrong. -/
theorem all_eq {db : Database} (hCap : s.cap = none) (hRefusals : s.refusals = []) :
    s.all db = if s.isReadable .rows = true then
      match s.fault? db .rows with
      | some e => .error e
      | none => .ok (s.ordered db)
      else .error .tooLarge := by
  have hRefusal : s.refusal? .rows = if s.isReadable .rows then none else some .tooLarge := by
    rw [refusals] at hRefusals
    simp [refusal?, Query.capParameters, hRefusals]
  rw [all, hCap]
  simp only [check, hRefusal]
  by_cases hReadable : s.isReadable .rows = true
  · rw [if_pos hReadable, if_pos hReadable]
    cases s.fault? db .rows <;> rfl
  · rw [if_neg hReadable, if_neg hReadable]
    rfl

theorem all_eq_ite {db : Database} (hCap : s.cap = none) (hRefusals : s.refusals = [])
    (hFault : s.fault? db .rows = none) :
    s.all db = if s.isReadable .rows = true then .ok (s.ordered db) else .error .tooLarge := by
  rw [all_eq hCap hRefusals, hFault]

/-- A window is refused if a number of it does not fit. -/
theorem refusal?_window {size offset : Int} (hRefusals : s.refusals = [])
    (hReadable : s.isReadable (.window size offset) = true) :
    s.refusal? (.window size offset) =
      if Stored.fits size ∧ Stored.fits offset then none else some .overflow := by
  rw [refusals] at hRefusals
  have hOne (n : Int) : Condition.refusals [(Value.int n).bindPlain] =
      if Stored.fits n then [] else [Error.overflow] := by
    have hBind : (Value.int n).bindPlain =
        if Stored.fits n then .ok (.int n) else .error .overflow := rfl
    rw [hBind]
    cases Stored.fits n <;> rfl
  have hBoth : Condition.refusals (Condition.allBindings s.conditions ++
      (Query.window size offset).capParameters.map fun n => (Value.int n).bindPlain) =
      (if Stored.fits size then [] else [Error.overflow]) ++
        if Stored.fits offset then [] else [Error.overflow] := by
    rw [Condition.refusals_append, hRefusals, ← hOne size, ← hOne offset,
      ← Condition.refusals_append]
    rfl
  simp only [refusal?, hBoth, hReadable, if_true]
  by_cases hSize : Stored.fits size <;> by_cases hOffset : Stored.fits offset <;>
    simp [hSize, hOffset]

/-! ## Answered selections -/

/-- Does the store answer what is asked of the selection? It tells the number of its rows, and shows
a row of it, from the first place on. -/
structure IsAnswered (db : Database) (s : Selection) : Prop where
  tellsCount : s.check db .count = .ok ()
  showsWindow : s.check db (.window 1 0) = .ok ()

theorem check_of_refusal? (hFault : s.fault? db q = none) :
    s.check db q = match s.refusal? q with
      | some e => .error e
      | none => .ok () := by
  cases hRefusal : s.refusal? q with
  | none => simp [check, hFault, hRefusal]
  | some e => simp [check, hFault, hRefusal]

namespace IsAnswered

/-- A selection whose conditions cannot fail is answered as soon as its statements are taken. -/
theorem of_isFaultless (hCount : s.refusal? .count = none) (hWindow : s.refusal? (.window 1 0) = none)
    (h : ∀ c ∈ s.conditions, c.isFaultless = true) : s.IsAnswered db :=
  ⟨check_of_isFaultless hCount h, check_of_isFaultless hWindow h⟩

theorem fault?_eq_none (h : s.IsAnswered db) (q : Query) : s.fault? db q = none := by
  have hCount := (Option.or_eq_none_iff.mp (check_eq_ok_iff.mp h.tellsCount)).2
  exact fault?_of_count hCount q

theorem refusals_eq_nil (h : s.IsAnswered db) : s.refusals = [] :=
  (refusals_of_refusal? (Option.or_eq_none_iff.mp (check_eq_ok_iff.mp h.showsWindow)).1).1

/-- Statements of windows all have the same size. -/
theorem isReadable_window (h : s.IsAnswered db) (size offset : Int) :
    s.isReadable (.window size offset) = true :=
  (refusals_of_refusal? (Option.or_eq_none_iff.mp (check_eq_ok_iff.mp h.showsWindow)).1).2

/-- A query that asks for nothing is answered. -/
theorem ofModel (db : Database) (m : Model) (dialect : String) :
    (Selection.ofModel m dialect).IsAnswered db :=
  of_isFaultless rfl rfl nofun

/-- In another order the store answers the same, as long as there are not too many keys. -/
theorem withOrder (h : s.IsAnswered db) {order : List OrderKey}
    (hKeys : order.length ≤ Extent.maxKeys) :
    ({ s with order := order } : Selection).IsAnswered db := by
  have hFault : ({ s with order := order } : Selection).fault? db .count = none := by
    simpa [fault?, Query.isEmpty] using h.fault?_eq_none .count
  have hReadable : ({ s with order := order } : Selection).isReadable (.window 1 0) = true := by
    have hWindow := h.isReadable_window 1 0
    simp only [isReadable, Bool.and_eq_true, decide_eq_true_eq] at hWindow ⊢
    exact ⟨hWindow.1, hKeys⟩
  -- neither the size of a count nor a parameter depends on the order
  have hCount := (Option.or_eq_none_iff.mp (check_eq_ok_iff.mp h.tellsCount)).1
  have hRefusals : ({ s with order := order } : Selection).refusals = [] := h.refusals_eq_nil
  have hWindow := refusal?_window hRefusals hReadable
  exact ⟨check_eq_ok_iff.mpr (Option.or_eq_none_iff.mpr ⟨hCount, hFault⟩),
    check_eq_ok_iff.mpr (Option.or_eq_none_iff.mpr ⟨hWindow, fault?_of_count hFault _⟩)⟩

/-- The statement of all rows is that of a window without the parameters of the window. -/
theorem isReadable_rows (h : s.IsAnswered db) : s.isReadable .rows = true := by
  have hWindow := h.isReadable_window 1 0
  simp only [isReadable, Extent.isReadable, Bool.and_eq_true, decide_eq_true_eq] at hWindow ⊢
  obtain ⟨⟨⟨hLevels, hKept⟩, hMarks⟩, hKeys⟩ := hWindow
  exact ⟨⟨⟨hLevels, hKept⟩, Nat.le_trans (Nat.le_add_right _ 2) hMarks⟩, hKeys⟩

/-- **All rows are answered.** -/
theorem check_rows (h : s.IsAnswered db) : s.check db .rows = .ok () := by
  rw [check_of_refusal? (h.fault?_eq_none _), refusal?_rows h.refusals_eq_nil h.isReadable_rows]

/-- **A window is answered** exactly if its size and its place fit into 64 bits. -/
theorem check_window (h : s.IsAnswered db) (size offset : Int) :
    s.check db (.window size offset) =
      if Stored.fits size ∧ Stored.fits offset then .ok () else .error .overflow := by
  rw [check_of_refusal? (h.fault?_eq_none _),
    refusal?_window h.refusals_eq_nil (h.isReadable_window size offset)]
  by_cases hFits : Stored.fits size ∧ Stored.fits offset
  · rw [if_pos hFits, if_pos hFits]
  · rw [if_neg hFits, if_neg hFits]

end IsAnswered

/-! ## Pages under a cap -/

/-- The selection with this cap, or without one. -/
def withCap (s : Selection) (cap? : Option Nat) : Selection := { s with cap := cap?.map Int.ofNat }

/-- Where the rows up to a place end under a cap. -/
def reach (cap? : Option Nat) (place : Nat) : Nat :=
  match cap? with
  | none => place
  | some cap => min place cap

theorem reach_le (cap? : Option Nat) (place : Nat) : reach cap? place ≤ place := by
  cases cap? with
  | none => exact Nat.le_refl place
  | some cap => exact Nat.min_le_left place cap

/-- The size of a page is what lies between its first place and its end, under the cap. -/
theorem pageSize_withCap (s : Selection) (cap? : Option Nat) (perPage offset : Nat) :
    (s.withCap cap?).pageSize perPage offset =
      ((reach cap? (offset + perPage) - offset : Nat) : Int) := by
  cases cap? with
  | none => simp [withCap, pageSize, reach]
  | some cap =>
    simp only [withCap, pageSize, reach, Option.map_some, Int.ofNat_eq_natCast]
    omega

theorem window_ofNat (rows : List Row) (size offset : Nat) :
    window rows size offset = (rows.drop offset).take size := by
  simp [window]

/-- Integers of 64 bits, among natural numbers. -/
theorem fits_ofNat_iff (n : Nat) : Stored.fits n = true ↔ n < 2 ^ 63 := by
  rw [Stored.fits, Bool.and_eq_true, decide_eq_true_iff, decide_eq_true_iff]
  simp only [Stored.minInt, Stored.maxInt]
  omega

namespace IsAnswered

variable {cap? : Option Nat}

/-- The cap plays no part in the number of rows. -/
theorem count_withCap (h : s.IsAnswered db) (cap? : Option Nat) :
    (s.withCap cap?).count db = .ok (s.matching db).length := by
  have hCheck : (s.withCap cap?).check db .count = .ok () := h.tellsCount
  rw [Selection.count, hCheck]
  rfl

/-- All rows under a cap are the first rows of all. -/
theorem all_withCap (h : s.IsAnswered db) (hCap : ∀ cap ∈ cap?, cap < 2 ^ 63) :
    (s.withCap cap?).all db = .ok ((s.ordered db).take (reach cap? (s.ordered db).length)) := by
  cases cap? with
  | none =>
    rw [reach, List.take_length]
    exact (all_eq_ok_iff (s := s.withCap none) rfl).mpr ⟨h.check_rows, rfl⟩
  | some cap =>
    have hFits : Stored.fits cap = true := (fits_ofNat_iff cap).mpr (hCap cap rfl)
    have hCheck : (s.withCap (some cap)).check db (.window cap 0) = .ok () := by
      refine (h.check_window cap 0).trans (if_pos ⟨hFits, by decide⟩)
    have hAll : (s.withCap (some cap)).all db =
        ((s.withCap (some cap)).check db (.window cap 0) >>= fun _ =>
          return window (s.ordered db) cap 0) := rfl
    rw [hAll, hCheck, reach, Nat.min_comm, ← List.take_take, List.take_length]
    exact congrArg Except.ok (window_ofNat (s.ordered db) cap 0)

/-- **One page under a cap.** If the cap ends before the page begins, there is nothing to ask for.
Otherwise the page is answered if its size and its first place fit into 64 bits, with the rows from
its first place up to its end or the cap. -/
theorem page_withCap (h : s.IsAnswered db) (cap? : Option Nat) (perPage i : Nat) :
    (s.withCap cap?).page db perPage (i + 1) =
      if reach cap? ((i + 1) * perPage) ≤ i * perPage then .ok []
      else if reach cap? ((i + 1) * perPage) - i * perPage < 2 ^ 63 ∧ i * perPage < 2 ^ 63 then
        .ok (((s.ordered db).take (reach cap? ((i + 1) * perPage))).drop (i * perPage))
      else .error .overflow := by
  have hOffset : ((i : Int) + 1 - 1) * perPage = ((i * perPage : Nat) : Int) := by
    push_cast
    ring
  have hEnd : (i + 1) * perPage = i * perPage + perPage := Nat.succ_mul i perPage
  unfold page
  simp only [hOffset, pageSize_withCap, hEnd]
  -- what is asked of the store begins at the place of the page and ends here
  generalize reach cap? (i * perPage + perPage) = stop
  by_cases hNothing : stop ≤ i * perPage
  · rw [if_pos hNothing, if_pos (by omega)]
  · rw [if_neg hNothing, if_neg (by omega)]
    -- the store takes size and place as integers of 64 bits
    have hCheck := h.check_window ((stop - i * perPage : Nat) : Int) ((i * perPage : Nat) : Int)
    simp only [fits_ofNat_iff] at hCheck
    by_cases hFits : stop - i * perPage < 2 ^ 63 ∧ i * perPage < 2 ^ 63
    · rw [if_pos hFits] at hCheck ⊢
      rw [List.drop_take, ← window_ofNat]
      exact bind_eq_ok_iff.mpr ⟨(), hCheck, rfl⟩
    · rw [if_neg hFits] at hCheck ⊢
      have hBind : (s.withCap cap?).check db (.window ((stop - i * perPage : Nat) : Int)
        ((i * perPage : Nat) : Int)) = .error .overflow := hCheck
      rw [hBind]
      rfl

end IsAnswered

end Selection

end Winnow
