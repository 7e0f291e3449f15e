import Winnow.Proofs.Query.Paginator
import Winnow.Query.Recorder
import Mathlib.Algebra.Group.Int.Defs

/-!
# Winnow.Proofs.Query.Reuse — one paginator, many builds

A build gives a paginator its rows first and their account afterwards, and can fail before, between
and after the two. Here it is followed part by part on a paginator that holds something already
(`Paginator.rebuild`). Whatever that is, the outcome is the one that `Paginator.build` tells
(`Paginator.rebuild_run`), and no rows are left without their account as long as rows are counted in
64 bits (`Paginator.build_cases`).

Main statement: in a run of builds on one paginator, of which any may fail, each that returns gives
what it would give on a new paginator, and each that fails leaves the paginator empty
(`Paginator.builds_do_not_interfere`).
-/

namespace Winnow

/-- If the rows can be counted, 64 bits hold their number. -/
def Source.IsCountable {ρ : Type} (src : Source ρ) : Prop :=
  ∀ n, src.count = .ok n → 0 ≤ n ∧ n < 2 ^ 63

namespace Paginator

variable {ρ : Type}

/-! ## Builds on a paginator that is there -/

/-- Read all rows, and hold them. -/
def holdAll (src : Source ρ) (r : PageRequest) : EStateM Error Paginator Unit := do
  let rows ← ofExcept (serializeAll src r.serializer src.all)
  modify fun p => { p with rows := rows }

/-- Count the rows and read one page. Its rows are held before there is an account of them. -/
def holdPage (src : Source ρ) (r : PageRequest) : EStateM Error Paginator Unit := do
  let perPage ← ofExcept (pageSize r.perPage)
  let page ← ofExcept (pageNumber r.page)
  let count ← ofExcept src.count
  let rows ← ofExcept (serializeAll src r.serializer (src.page perPage page))
  modify fun p => { p with rows := rows }
  let pages ← ofExcept (pagesCount count perPage)
  modify fun p => { p with info? := some ⟨page, perPage, pages, count⟩ }

/-- One more build on a paginator: what it holds is dropped, and what it comes to hold is given. -/
def rebuild (src : Source ρ) (r : PageRequest) : EStateM Error Paginator Paginator := do
  set empty
  if r.skip then holdAll src r else holdPage src r
  get

/-- What a finished build comes to on the paginator that it leaves. -/
def Built.outcome (b : Built) : EStateM.Result Error Paginator Paginator :=
  match b.error? with
  | some e => .error e b.paginator
  | none => .ok b.paginator b.paginator

/-- A part that cannot be had ends the build, and what is held by then stays. -/
theorem run_ofExcept_bind {α β : Type} (part : Except Error α)
    (next : α → EStateM Error Paginator β) (p : Paginator) :
    (ofExcept part >>= next).run p =
      match part with
      | .ok a => (next a).run p
      | .error e => .error e p := by
  cases part <;> rfl

theorem run_holdAll (src : Source ρ) (r : PageRequest) :
    (holdAll src r >>= fun _ => get).run empty = (buildFull src r).outcome := by
  simp only [holdAll, buildFull, bind_assoc, run_ofExcept_bind]
  cases serializeAll src r.serializer src.all <;> rfl

theorem run_holdPage (src : Source ρ) (r : PageRequest) :
    (holdPage src r >>= fun _ => get).run empty = (buildPage src r).outcome := by
  simp only [holdPage, buildPage, bind_assoc, run_ofExcept_bind]
  cases pageSize r.perPage with
  | error e => rfl
  | ok perPage =>
    cases pageNumber r.page with
    | error e => rfl
    | ok page =>
      cases src.count with
      | error e => rfl
      | ok count =>
        dsimp only
        cases serializeAll src r.serializer (src.page perPage page) with
        | error e => rfl
        | ok rows =>
          dsimp only
          cases pagesCount count perPage <;> rfl

/-- **A build on a paginator that is there** is a build: nothing comes of what has been there. -/
theorem rebuild_run (src : Source ρ) (r : PageRequest) (p : Paginator) :
    (rebuild src r).run p = (build src r).outcome := by
  unfold rebuild build
  cases r.skip with
  | true => exact run_holdAll src r
  | false => exact run_holdPage src r

/-! ## Nothing half-finished -/

/-- **A build fails before anything is held, or it is finished.** When it is, there is an account
exactly in paged mode. -/
theorem build_cases {src : Source ρ} (hCountable : src.IsCountable) (r : PageRequest) :
    (∃ readings e, build src r = .failed readings e) ∨
      ∃ readings p, build src r = ⟨readings, p, none⟩ ∧ (p.info? = none ↔ r.skip = true) := by
  unfold build
  cases r.skip with
  | true =>
    rw [if_pos rfl, buildFull]
    cases serializeAll src r.serializer src.all with
    | error e => exact .inl ⟨_, e, rfl⟩
    | ok rows => exact .inr ⟨_, _, rfl, by simp⟩
  | false =>
    rw [if_neg Bool.false_ne_true, buildPage]
    cases pageSize r.perPage with
    | error e => exact .inl ⟨_, e, rfl⟩
    | ok perPage =>
      cases pageNumber r.page with
      | error e => exact .inl ⟨_, e, rfl⟩
      | ok page =>
        cases hCount : src.count with
        | error e => exact .inl ⟨_, e, rfl⟩
        | ok count =>
          dsimp only
          cases serializeAll src r.serializer (src.page perPage page) with
          | error e => exact .inl ⟨_, e, rfl⟩
          | ok rows =>
            -- the rows are held already, but no account of so few rows can fail
            obtain ⟨hNonneg, hBits⟩ := hCountable count hCount
            obtain ⟨n, rfl⟩ := Int.eq_ofNat_of_zero_le hNonneg
            obtain ⟨pages, hPages⟩ := exists_pagesCount perPage (show n < 2 ^ 63 by omega)
            rw [hPages]
            exact .inr ⟨_, _, rfl, by simp⟩

/-- The outcome of a build is that on a new paginator. If the build failed, nothing is held after it.
If it returned, what it gave is held, with an account exactly in paged mode. -/
inductive IsAsNew (src : Source ρ) (r : PageRequest) :
    EStateM.Result Error Paginator Paginator → Prop
  | failed {e : Error} (hNew : (rebuild src r).run empty = .error e empty)
      (hBuild : (build src r).result = .error e) : IsAsNew src r (.error e empty)
  | returned {p : Paginator} (hNew : (rebuild src r).run empty = .ok p p)
      (hBuild : (build src r).result = .ok p) (hInfo : p.info? = none ↔ r.skip = true) :
      IsAsNew src r (.ok p p)

theorem isAsNew_rebuild {src : Source ρ} (hCountable : src.IsCountable) (r : PageRequest)
    (p : Paginator) : IsAsNew src r ((rebuild src r).run p) := by
  rw [rebuild_run]
  rcases build_cases hCountable r with ⟨readings, e, hBuild⟩ | ⟨readings, q, hBuild, hInfo⟩
  · rw [hBuild]
    exact .failed (by rw [rebuild_run, hBuild]; rfl) (by rw [hBuild]; rfl)
  · rw [hBuild]
    exact .returned (by rw [rebuild_run, hBuild]; rfl) (by rw [hBuild]; rfl) hInfo

/-! ## Runs -/

/-- What is held after a build, be it finished or not. -/
def held : EStateM.Result Error Paginator Paginator → Paginator
  | .ok _ p => p
  | .error _ p => p

/-- What comes of builds on one paginator, where each finds what the one before it has left. -/
def rebuilds : List (Source ρ × PageRequest) → Paginator →
    List (EStateM.Result Error Paginator Paginator)
  | [], _ => []
  | b :: builds, p =>
    let outcome := (rebuild b.1 b.2).run p
    outcome :: rebuilds builds (held outcome)

/-- **Builds on one paginator do not interfere.** Let builds follow each other, in either mode and
with whatever arguments, on sources whose rows are counted in 64 bits, and let any of them fail. Each
that fails leaves a paginator without rows and without an account. Each that returns gives what it
would give on a new paginator, and this is what is held after it. -/
theorem builds_do_not_interfere (builds : List (Source ρ × PageRequest))
    (hCountable : ∀ b ∈ builds, b.1.IsCountable) (start : Paginator) :
    List.Forall₂ (fun b outcome => IsAsNew b.1 b.2 outcome) builds (rebuilds builds start) := by
  induction builds generalizing start with
  | nil => exact .nil
  | cons b builds ih =>
    obtain ⟨hHead, hRest⟩ := List.forall_mem_cons.mp hCountable
    exact .cons (isAsNew_rebuild hHead b.2 start) (ih hRest _)

/-- Three rows, of which the third cannot be serialized. -/
def brokenRow : Source Int :=
  { (Recorder.ofCount 3 none).source with
    serialize := fun name key =>
      if key = 3 then .error (.noSerializer "Row" name) else Recorder.serialize name key }

/-- All rows; a page size that is none; a page that breaks off at its third row; and the second page
of two rows each. -/
def mixedBuilds : List (Source Int × PageRequest) :=
  [((Recorder.ofCount 3 none).source, ⟨.null, .null, "to_dict", true⟩),
    ((Recorder.ofCount 3 none).source, ⟨.int 0, .int 1, "to_dict", false⟩),
    (brokenRow, ⟨.int 3, .int 1, "to_dict", false⟩),
    ((Recorder.ofCount 3 none).source, ⟨.int 2, .int 2, "to_dict", false⟩)]

/-- The values of rows with these keys. -/
def keyed (keys : List Int) : List Value := keys.map fun key => .mapping [(.text "id", .int key)]

theorem builds_do_not_interfere_mixed :
    (∀ b ∈ mixedBuilds, b.1.IsCountable) ∧
    ∃ scan page outcomes, scan = ⟨keyed [1, 2, 3], none⟩ ∧
      page = ⟨keyed [3], some ⟨2, 2, 2, 3⟩⟩ ∧
      outcomes = [.ok scan scan, .error (.invalidPageSize "0") empty,
        .error (.noSerializer "Row" "to_dict") empty, .ok page page] ∧
      rebuilds mixedBuilds ⟨keyed [7], some ⟨1, 1, 1, 1⟩⟩ = outcomes ∧
      List.Forall₂ (fun b outcome => IsAsNew b.1 b.2 outcome) mixedBuilds outcomes := by
  have hCountable : ∀ b ∈ mixedBuilds, b.1.IsCountable := by
    have hThree (b : Source Int × PageRequest) (hb : b ∈ mixedBuilds) : b.1.count = .ok 3 := by
      simp only [mixedBuilds, List.mem_cons, List.not_mem_nil, or_false] at hb
      rcases hb with rfl | rfl | rfl | rfl <;> rfl
    intro b hb n hn
    obtain rfl : 3 = n := Except.ok.inj ((hThree b hb).symm.trans hn)
    decide
  exact ⟨hCountable, _, _, _, rfl, rfl, rfl, rfl,
    builds_do_not_interfere mixedBuilds hCountable ⟨keyed [7], some ⟨1, 1, 1, 1⟩⟩⟩

/-- One row on a page, and a number of rows that no double holds. -/
def uncountable : Built :=
  build (Recorder.ofCount 1 (some (2 ^ 1100))).source ⟨.int 1, .int 1, "to_dict", false⟩

/-- Such a build fails, and its row is left without an account. -/
example : (uncountable.error?, uncountable.paginator.rows.length, uncountable.paginator.info?) =
    (some .overflow, 1, none) := by decide +kernel

end Paginator

end Winnow
