import Winnow.Proofs.Store.Gathering
import Winnow.Query.Paginator
import Mathlib.Algebra.Group.Nat.Defs
import Mathlib.Data.List.Forall2

/-!
# Winnow.Proofs.Query.Paginator — what a build gives

A build in full mode gives the values of all rows, and in paged mode the values of one page with an
account of it (`Paginator.result_full`, `Paginator.result_page`). Rows become values one by one, so
a part of the rows becomes the same part of the values (`mapM_eq_ok_iff`).

The number of pages is a double for a while. It has an integer above it unless it is infinite, which
no number of rows that a store tells comes near (`Paginator.exists_pagesCount`).
-/

namespace Winnow

/-- Values for a list are values for its items, one by one. -/
theorem mapM_eq_ok_iff {ε α β : Type} {f : α → Except ε β} {xs : List α} {ys : List β} :
    xs.mapM f = .ok ys ↔ List.Forall₂ (fun x y => f x = .ok y) xs ys := by
  induction xs generalizing ys with
  | nil =>
    rw [List.mapM_nil, List.forall₂_nil_left_iff]
    exact ⟨fun h => (Except.ok.inj h).symm, fun h => congrArg Except.ok h.symm⟩
  | cons x xs ih =>
    rw [List.mapM_cons, bind_eq_ok_iff, List.forall₂_cons_left_iff]
    constructor
    · rintro ⟨y, hHead, h⟩
      obtain ⟨rest, hRest, h⟩ := bind_eq_ok_iff.mp h
      exact ⟨y, rest, hHead, ih.mp hRest, (Except.ok.inj h).symm⟩
    · rintro ⟨y, rest, hHead, hRest, rfl⟩
      exact ⟨y, hHead, bind_eq_ok_iff.mpr ⟨rest, ih.mpr hRest, rfl⟩⟩

/-- The values of the first items are the first values. -/
theorem mapM_take_eq_ok {ε α β : Type} {f : α → Except ε β} {xs : List α} {ys : List β}
    (h : xs.mapM f = .ok ys) (n : Nat) : (xs.take n).mapM f = .ok (ys.take n) :=
  mapM_eq_ok_iff.mpr (List.forall₂_take n (mapM_eq_ok_iff.mp h))

/-- Values that are known for each item. -/
theorem mapM_eq_ok_map {ε α β : Type} {f : α → Except ε β} {g : α → β} {xs : List α}
    (h : ∀ x ∈ xs, f x = .ok (g x)) : xs.mapM f = .ok (xs.map g) := by
  rw [mapM_eq_ok_iff, List.forall₂_map_right_iff, List.forall₂_same]
  exact h

/-- There are values for a list if there is one for each item. -/
theorem exists_mapM_eq_ok {ε α β : Type} {f : α → Except ε β} {xs : List α}
    (h : ∀ x ∈ xs, ∃ y, f x = .ok y) : ∃ ys, xs.mapM f = .ok ys := by
  induction xs with
  | nil => exact ⟨[], rfl⟩
  | cons x xs ih =>
    obtain ⟨⟨y, hHead⟩, hRest⟩ := List.forall_mem_cons.mp h
    obtain ⟨ys, hRest⟩ := ih hRest
    exact ⟨y :: ys, mapM_eq_ok_iff.mpr (.cons hHead (mapM_eq_ok_iff.mp hRest))⟩

/-- There is a value for each item if a look at all of them says so. -/
theorem exists_eq_ok_of_all {ε α β : Type} {f : α → Except ε β} {xs : List α}
    (h : (xs.all fun x => (f x).toOption.isSome) = true) : ∀ x ∈ xs, ∃ y, f x = .ok y := by
  intro x hx
  have hSome := List.all_eq_true.mp h x hx
  cases hValue : f x with
  | ok y => exact ⟨y, rfl⟩
  | error e => simp [hValue, Except.toOption] at hSome

namespace Binary64

/-- A quotient is not larger than its numerator, so its exponent is not, either. -/
theorem exponentFor_le (num den : Nat) :
    exponentFor num den ≤ max minExponent ((Nat.log2 num : Int) - 52) := by
  unfold exponentFor
  dsimp only
  split <;> omega

/-- A quotient with a numerator below `2 ^ 1023` is nearest to a finite double. -/
theorem exists_round_eq_finite (negative : Bool) {num bits : Nat} (den : Nat) (h : num < 2 ^ bits)
    (hBits : bits ≤ 1023) : ∃ m q, round negative num den = finite negative m q := by
  by_cases hZero : num = 0
  · exact ⟨0, minExponent, by rw [round, if_pos hZero]; rfl⟩
  · have hLog : Nat.log2 num < bits := (Nat.log2_lt hZero).mpr h
    have hExponent : exponentFor num den < maxExponent := by
      have hLe := exponentFor_le num den
      simp only [minExponent, maxExponent] at hLe ⊢
      omega
    rw [round, if_neg hZero]
    dsimp only
    -- rounding up to the next power of two makes the exponent greater by one
    generalize (if 0 ≤ exponentFor num den then
      roundDiv num (den * Number.pow2 (exponentFor num den).toNat)
      else roundDiv (num * Number.pow2 (-exponentFor num den).toNat) den) = m
    by_cases hCarry : m = Number.pow2 53
    · rw [if_pos hCarry]
      exact ⟨_, _, if_neg (by dsimp only; omega)⟩
    · rw [if_neg hCarry]
      exact ⟨_, _, if_neg (by dsimp only; omega)⟩

end Binary64

namespace Paginator

/-- Rows that are counted in 64 bits have a number of pages. -/
theorem exists_pagesCount {count : Nat} (perPage : Int) (h : count < 2 ^ 63) :
    ∃ pages, pagesCount count perPage = .ok pages := by
  have hBound : (count : Int).natAbs < 2 ^ 63 := by
    rw [Int.natAbs_natCast]
    exact h
  obtain ⟨m, q, hRound⟩ := Binary64.exists_round_eq_finite (decide ((count : Int) < 0))
    perPage.toNat hBound (by decide)
  rw [pagesCount, hRound]
  exact ⟨_, rfl⟩

theorem pageNumber_ofNat (i : Nat) : pageNumber (.int (i + 1)) = .ok ((i : Int) + 1) := by
  have hTruthy : (Value.int ((i : Int) + 1)).isTruthy = true := by
    simp only [Value.isTruthy, bne_iff_ne, ne_eq]
    omega
  have hMax : max ((i : Int) + 1) 1 = i + 1 := by omega
  rw [pageNumber, if_pos hTruthy]
  exact congrArg Except.ok hMax

theorem pageSize_ofNat {perPage : Nat} (h : 1 ≤ perPage) : pageSize (.int perPage) = .ok perPage :=
  if_pos (Int.natCast_pos.mpr h)

variable {ρ : Type} {src : Source ρ} {r : PageRequest}

/-- **All rows at once**: their values, without an account. -/
theorem result_full (hSkip : r.skip = true) :
    (build src r).result = (serializeAll src r.serializer src.all).map fun rows => ⟨rows, none⟩ := by
  rw [build, if_pos hSkip, buildFull]
  cases serializeAll src r.serializer src.all <;> rfl

/-- **One page**: its values, with an account of the page and the number of all rows. -/
theorem result_page {perPage i count : Nat} {pages : Int} (hSkip : r.skip = false)
    (hPerPage : r.perPage = .int perPage) (hPositive : 1 ≤ perPage) (hPage : r.page = .int (i + 1))
    (hCount : src.count = .ok count) (hPages : pagesCount count perPage = .ok pages) :
    (build src r).result = (serializeAll src r.serializer (src.page perPage (i + 1))).map
      fun rows => ⟨rows, some ⟨i + 1, perPage, pages, count⟩⟩ := by
  rw [build, hSkip, if_neg Bool.false_ne_true, buildPage, hPerPage, pageSize_ofNat hPositive, hPage]
  simp only [pageNumber_ofNat, hCount]
  cases serializeAll src r.serializer (src.page perPage (i + 1)) with
  | error e => rfl
  | ok rows =>
    simp only [hPages]
    rfl

/-- **A build sees no more of its source** than the number of rows and the values of what it reads. -/
theorem build_congr {src' : Source ρ} (hCount : src.count = src'.count)
    (hAll : serializeAll src r.serializer src.all = serializeAll src' r.serializer src'.all)
    (hPage : ∀ perPage page, serializeAll src r.serializer (src.page perPage page) =
      serializeAll src' r.serializer (src'.page perPage page)) : build src r = build src' r := by
  simp only [build, buildFull, buildPage, hCount, hAll, hPage]

/-- The values of a build are those of rows that were read. -/
theorem exists_rows_of_result {p : Paginator} (h : (build src r).result = .ok p) :
    ∃ rows, (src.all = .ok rows ∨ ∃ perPage hPage, src.page perPage hPage = .ok rows) ∧
      rows.mapM (src.serialize r.serializer) = .ok p.rows := by
  unfold build at h
  split at h
  · unfold buildFull at h
    split at h
    · cases h
    · rename_i values hValues
      cases h
      obtain ⟨rows, hRows, hValues⟩ := bind_eq_ok_iff.mp hValues
      exact ⟨rows, Or.inl hRows, hValues⟩
  · unfold buildPage at h
    split at h
    · cases h
    split at h
    · cases h
    split at h
    · cases h
    dsimp only at h
    split at h
    · cases h
    rename_i perPage _ hPage _ _ _ _ values hValues
    split at h
    · cases h
    · cases h
      obtain ⟨rows, hRows, hValues⟩ := bind_eq_ok_iff.mp hValues
      exact ⟨rows, Or.inr ⟨_, _, hRows⟩, hValues⟩

end Paginator

end Winnow
