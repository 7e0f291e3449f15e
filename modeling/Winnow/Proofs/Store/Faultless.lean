import Winnow.Store.Query

/-!
# Winnow.Proofs.Store.Faultless — conditions on which no row goes wrong

Only two kinds of conditions fail on a row: searches in documents and searches with a pattern that
is too long. Any others may be tested on the rows of every table, in every order and however far the
store goes (`Condition.fault?_of_isFaultless`). So whether a query of such conditions is answered
depends on its statement and its parameters alone (`Selection.check_of_isFaultless`), and not on
what is stored.
-/

namespace Winnow

namespace Condition

namespace Test

variable {ts : List Test} {r : Row} {e : Error}

/-! ### What goes wrong goes wrong in a test -/

theorem exists_of_firstFault? {stops : Option Bool → Bool} (h : firstFault? stops r ts = some e) :
    ∃ t ∈ ts, t.fault? r = some e := by
  induction ts with
  | nil => cases h
  | cons t ts ih =>
    rw [firstFault?] at h
    cases hHere : t.fault? r with
    | some e' =>
      simp only [hHere] at h
      exact ⟨t, List.mem_cons_self, h ▸ hHere⟩
    | none =>
      simp only [hHere] at h
      split at h
      · cases h
      · obtain ⟨u, hMem, hFault⟩ := ih h
        exact ⟨u, List.mem_cons_of_mem t hMem, hFault⟩

theorem exists_of_allFault? (h : allFault? ts r = some e) : ∃ t ∈ ts, t.fault? r = some e := by
  -- in which order the tests are made does not matter
  obtain ⟨t, hMem, hFault⟩ := exists_of_firstFault? h
  exact ⟨t, List.mem_mergeSort.mp hMem, hFault⟩

theorem exists_of_rowsFault? {need? : Option Nat} {rows : List Row}
    (h : rowsFault? ts need? rows = some e) : ∃ r ∈ rows, allFault? ts r = some e := by
  induction rows generalizing need? with
  | nil =>
    unfold rowsFault? at h
    split at h
    · cases h
    · cases h
    · rename_i hCons
      cases hCons
  | cons r rows ih =>
    unfold rowsFault? at h
    split at h
    · cases h
    · cases h
    · rename_i hCons
      obtain ⟨rfl, rfl⟩ := List.cons.inj hCons
      split at h
      · rename_i hFault
        exact ⟨r, List.mem_cons_self, h ▸ hFault⟩
      · obtain ⟨x, hMem, hTest⟩ := ih h
        exact ⟨x, List.mem_cons_of_mem r hMem, hTest⟩

/-! ### Tests that do not go wrong -/

theorem firstFault?_eq_none (stops : Option Bool → Bool) (h : ∀ t ∈ ts, t.fault? r = none) :
    firstFault? stops r ts = none := by
  apply Option.eq_none_iff_forall_ne_some.mpr
  intro e hFault
  obtain ⟨t, hMem, hTest⟩ := exists_of_firstFault? hFault
  rw [h t hMem] at hTest
  cases hTest

theorem allFault?_eq_none (h : ∀ t ∈ ts, t.fault? r = none) : allFault? ts r = none :=
  firstFault?_eq_none _ fun t ht => h t (List.mem_mergeSort.mp ht)

/-- If no row goes wrong, none does among those that are tested until so many are found. -/
theorem rowsFault?_eq_none {rows : List Row} (h : ∀ r ∈ rows, allFault? ts r = none)
    (need? : Option Nat) : rowsFault? ts need? rows = none := by
  apply Option.eq_none_iff_forall_ne_some.mpr
  intro e hFault
  obtain ⟨r, hMem, hRow⟩ := exists_of_rowsFault? hFault
  rw [h r hMem] at hRow
  cases hRow

end Test

mutual

/-- Can the condition not fail on a row? -/
def isFaultless : Condition → Bool
  | like _ pattern _ => !Like.isTooLong pattern
  | documentHas .. => false
  | any conditions => allFaultless conditions
  | has _ _ conditions => allFaultless conditions
  | _ => true

/-- Can none of the conditions fail on a row? -/
def allFaultless : List Condition → Bool
  | [] => true
  | c :: cs => isFaultless c && allFaultless cs

end

theorem allFaultless_iff {conditions : List Condition} :
    allFaultless conditions = true ↔ ∀ c ∈ conditions, c.isFaultless = true := by
  induction conditions with
  | nil => simp [allFaultless]
  | cons c cs ih => simp [allFaultless, ih]

theorem exists_of_mem_tests {db : Database} {m : Model} {conditions : List Condition} {t : Test}
    (h : t ∈ tests db m conditions) : ∃ c ∈ conditions, t.fault? = fun r => fault? db m c r := by
  induction conditions with
  | nil => simp [tests] at h
  | cons c cs ih =>
    rw [tests] at h
    cases h with
    | head => exact ⟨c, List.mem_cons_self, rfl⟩
    | tail _ h =>
      obtain ⟨c', hMem, hFault⟩ := ih h
      exact ⟨c', List.mem_cons_of_mem _ hMem, hFault⟩

/-- The tests of conditions that do not fail do not fail. -/
theorem fault?_of_mem_tests {db : Database} {m : Model} {conditions : List Condition}
    (h : ∀ c ∈ conditions, ∀ r, fault? db m c r = none) :
    ∀ t ∈ tests db m conditions, ∀ r, t.fault? r = none := by
  intro t ht r
  obtain ⟨c, hMem, hFault⟩ := exists_of_mem_tests ht
  rw [hFault]
  exact h c hMem r

/-- **Conditions without documents and long patterns do not fail**, on any row of any table. -/
theorem fault?_of_isFaultless (db : Database) :
    ∀ (c : Condition) (m : Model), c.isFaultless = true → ∀ r, fault? db m c r = none
  | .any conditions, m, h, r => by
    rw [isFaultless, allFaultless_iff] at h
    rw [fault?]
    apply Test.firstFault?_eq_none
    intro t ht
    exact fault?_of_mem_tests (fun c hc => fault?_of_isFaultless db c m (h c hc)) t ht r
  | .has relation target conditions, m, h, r => by
    rw [isFaultless, allFaultless_iff] at h
    rw [fault?]
    apply Test.rowsFault?_eq_none
    intro x _
    apply Test.allFault?_eq_none
    intro t ht
    exact fault?_of_mem_tests (fun c hc => fault?_of_isFaultless db c target (h c hc)) t ht x
  | .like column pattern foldCase, m, h, r => by
    simp only [isFaultless, Bool.not_eq_true'] at h
    simp [fault?, h]
  | .documentHas .., m, h, r => by simp [isFaultless] at h
  | .isNull _, _, _, _ => by simp [fault?]
  | .notNull _, _, _, _ => by simp [fault?]
  | .flag .., _, _, _ => by simp [fault?]
  | .compare .., _, _, _ => by simp [fault?]
  | .among .., _, _, _ => by simp [fault?]
  | .notAmong .., _, _, _ => by simp [fault?]
  | .between .., _, _, _ => by simp [fault?]

end Condition

namespace Selection

variable {db : Database} {s : Selection} {q : Query}

/-- If no row of the table goes wrong, none does in any query. -/
theorem fault?_eq_none_of_rows (h : ∀ r ∈ db.rows s.model,
    Condition.Test.allFault? (Condition.tests db s.model s.conditions) r = none) :
    s.fault? db q = none := by
  unfold fault?
  dsimp only
  split
  · rfl
  · split
    · -- the rows in order are the rows of the table
      exact Condition.Test.rowsFault?_eq_none (fun r hr => h r (List.mem_mergeSort.mp hr)) _
    · exact Condition.Test.rowsFault?_eq_none h _

theorem fault?_of_isFaultless (h : ∀ c ∈ s.conditions, c.isFaultless = true) :
    s.fault? db q = none := by
  have hTests : ∀ t ∈ Condition.tests db s.model s.conditions, ∀ r, t.fault? r = none :=
    Condition.fault?_of_mem_tests fun c hc => Condition.fault?_of_isFaultless db c s.model (h c hc)
  exact fault?_eq_none_of_rows fun r _ => Condition.Test.allFault?_eq_none fun t ht => hTests t ht r

/-- A query whose conditions cannot fail is answered as soon as its statement is taken. -/
theorem check_of_isFaultless (hRefusal : s.refusal? q = none)
    (h : ∀ c ∈ s.conditions, c.isFaultless = true) : s.check db q = .ok () := by
  rw [check, hRefusal, fault?_of_isFaultless h]
  rfl

end Selection

end Winnow
