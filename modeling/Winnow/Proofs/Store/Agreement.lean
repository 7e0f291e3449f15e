import Winnow.Proofs.Store.Gathering
import Mathlib.Data.List.Forall2

/-!
# Winnow.Proofs.Store.Agreement — databases that differ in some columns only

Two databases *agree but for* some columns of each model if their tables have the same rows, one by
one, up to the cells of these columns (`Database.AgreeBut`). A condition *avoids* the columns if it
looks at none of them: neither at the cells that it compares, nor at those that carry the relations
on its way (`Condition.Avoids`).

Such a condition has the same truth on rows that agree (`Condition.eval_eq`) and goes wrong on the
same rows (`Condition.fault?_eq`), by induction on the condition: related rows come in the same
order and agree again. Hence a selection that avoids the columns has the same refusals, the same
number of rows and, up to the columns, the same rows in the same order (`Selection.check_eq`,
`Selection.agree_ordered`).
-/

namespace Winnow

/-! ## Lists that are related item by item -/

section Lists

variable {α β : Type} {R : α → β → Prop} {xs : List α} {ys : List β}

/-- Lists that are related item by item are two sides of a list of related pairs. -/
theorem exists_pairs_of_forall₂ (h : List.Forall₂ R xs ys) :
    ∃ ps : List (α × β), (∀ p ∈ ps, R p.1 p.2) ∧ xs = ps.map Prod.fst ∧ ys = ps.map Prod.snd := by
  induction h with
  | nil => exact ⟨[], nofun, rfl, rfl⟩
  | cons hHead _ ih =>
    obtain ⟨ps, hRest, rfl, rfl⟩ := ih
    exact ⟨(_, _) :: ps, List.forall_mem_cons.mpr ⟨hHead, hRest⟩, rfl, rfl⟩

theorem forall₂_of_pairs {ps : List (α × β)} (h : ∀ p ∈ ps, R p.1 p.2) :
    List.Forall₂ R (ps.map Prod.fst) (ps.map Prod.snd) := by
  rw [List.forall₂_map_left_iff, List.forall₂_map_right_iff, List.forall₂_same]
  exact h

/-- Sorting keeps items together that are compared in the same way. -/
theorem forall₂_mergeSort {le : α → α → Bool} {le' : β → β → Bool} (h : List.Forall₂ R xs ys)
    (hCompare : ∀ a a' b b', R a a' → R b b' → le a b = le' a' b') :
    List.Forall₂ R (xs.mergeSort le) (ys.mergeSort le') := by
  obtain ⟨ps, hPairs, rfl, rfl⟩ := exists_pairs_of_forall₂ h
  have hLeft : (ps.mergeSort fun p q => le p.1 q.1).map Prod.fst = (ps.map Prod.fst).mergeSort le :=
    List.map_mergeSort fun _ _ _ _ => rfl
  have hRight : (ps.mergeSort fun p q => le p.1 q.1).map Prod.snd =
      (ps.map Prod.snd).mergeSort le' :=
    List.map_mergeSort fun p hp q hq => hCompare _ _ _ _ (hPairs p hp) (hPairs q hq)
  rw [← hLeft, ← hRight]
  exact forall₂_of_pairs fun p hp => hPairs p (List.mem_mergeSort.mp hp)

/-- Tests that agree on related items agree on the lists. -/
theorem any_eq_of_forall₂ {p : α → Bool} {q : β → Bool} (h : List.Forall₂ R xs ys)
    (hTest : ∀ a b, R a b → p a = q b) : xs.any p = ys.any q := by
  induction h with
  | nil => rfl
  | cons hHead _ ih => rw [List.any_cons, List.any_cons, hTest _ _ hHead, ih]

theorem all_eq_of_forall₂ {p : α → Bool} {q : β → Bool} (h : List.Forall₂ R xs ys)
    (hTest : ∀ a b, R a b → p a = q b) : xs.all p = ys.all q := by
  induction h with
  | nil => rfl
  | cons hHead _ ih => rw [List.all_cons, List.all_cons, hTest _ _ hHead, ih]

theorem mapM_eq_of_forall₂ {ε γ : Type} {f : α → Except ε γ} {g : β → Except ε γ}
    (h : List.Forall₂ R xs ys) (hSame : ∀ a b, R a b → f a = g b) : xs.mapM f = ys.mapM g := by
  induction h with
  | nil => rfl
  | cons hHead _ ih => rw [List.mapM_cons, List.mapM_cons, hSame _ _ hHead, ih]

end Lists

/-! ## Agreement -/

/-- Do two rows have the same cells, but for the columns of these names? -/
def Row.AgreeBut (names : List String) (a b : Row) : Prop :=
  ∀ column, column ∉ names → a.cell column = b.cell column

/-- Do two databases have the same models and, row by row, the same cells, but for the columns that
are secret? -/
structure Database.AgreeBut (secret : Model → List String) (db db' : Database) : Prop where
  schema : db'.schema = db.schema
  rows : ∀ m ∈ db.schema, List.Forall₂ (Row.AgreeBut (secret m)) (db.rows m) (db'.rows m)

/-- Is a relation seen without a look at secret columns? The one model carries it, by the key of the
other. -/
def Relation.Avoids (secret : Model → List String) (m target : Model) (rel : Relation) : Prop :=
  if rel.toMany then rel.column ∉ secret target ∧ keyColumn ∉ secret m
  else rel.column ∉ secret m ∧ keyColumn ∉ secret target

variable {secret : Model → List String} {db db' : Database} {m target : Model} {a a' b b' : Row}

namespace Row

variable {names : List String}

theorem AgreeBut.key (h : AgreeBut names a b) (hKey : keyColumn ∉ names) : a.key = b.key := by
  have hCell := h keyColumn hKey
  simpa [cell] using hCell

theorem AgreeBut.reference? (h : AgreeBut names a b) {column : String} (hColumn : column ∉ names) :
    a.reference? column = b.reference? column := by
  rw [Row.reference?, Row.reference?, h column hColumn]

end Row

/-- Rows that agree are related to rows that agree. -/
theorem Database.related_eq {rel : Relation} (hRelation : rel.Avoids secret m target)
    (hRow : Row.AgreeBut (secret m) a a') (hOther : Row.AgreeBut (secret target) b b') :
    related rel a b = related rel a' b' := by
  unfold Relation.Avoids at hRelation
  unfold related
  split at hRelation
  · rw [if_pos ‹_›, if_pos ‹_›, hOther.reference? hRelation.1, hRow.key hRelation.2]
  · rw [if_neg ‹_›, if_neg ‹_›, hRow.reference? hRelation.1, hOther.key hRelation.2]

theorem Database.AgreeBut.relatedRows (h : db.AgreeBut secret db') (hTarget : target ∈ db.schema)
    {rel : Relation} (hRelation : rel.Avoids secret m target)
    (hRow : Row.AgreeBut (secret m) a a') :
    List.Forall₂ (Row.AgreeBut (secret target)) (db.relatedRows rel target a)
      (db'.relatedRows rel target a') :=
  List.rel_filter (fun _ _ hOther => Bool.eq_iff_iff.mp (related_eq hRelation hRow hOther))
    (h.rows target hTarget)

namespace Condition

/-! ## Truth -/

mutual

/-- Does the condition look at no secret column? Neither do the columns that it tests belong to
them, nor those that carry the relations through which it asks. -/
def Avoids (schema : Schema) (secret : Model → List String) (m : Model) : Condition → Prop
  | isNull c => c.name ∉ secret m
  | notNull c => c.name ∉ secret m
  | flag c _ _ => c.name ∉ secret m
  | compare c _ _ => c.name ∉ secret m
  | among c _ => c.name ∉ secret m
  | notAmong c _ => c.name ∉ secret m
  | like c _ _ => c.name ∉ secret m
  | between c _ _ => c.name ∉ secret m
  | documentHas c _ _ _ => c.name ∉ secret m
  | any conditions => AllAvoid schema secret m conditions
  | has rel target conditions =>
    target ∈ schema ∧ rel.Avoids secret m target ∧ AllAvoid schema secret target conditions

/-- Do all the conditions look at no secret column? -/
def AllAvoid (schema : Schema) (secret : Model → List String) (m : Model) : List Condition → Prop
  | [] => True
  | c :: cs => Avoids schema secret m c ∧ AllAvoid schema secret m cs

end

theorem allAvoid_iff {schema : Schema} {conditions : List Condition} :
    AllAvoid schema secret m conditions ↔ ∀ c ∈ conditions, c.Avoids schema secret m := by
  induction conditions with
  | nil => simp [AllAvoid]
  | cons c cs ih => simp [AllAvoid, ih]

theorem evalAny_eq {conditions : List Condition}
    (h : ∀ c ∈ conditions, eval db a c = eval db' a' c) :
    evalAny db a conditions = evalAny db' a' conditions := by
  induction conditions with
  | nil => rfl
  | cons c cs ih =>
    obtain ⟨hHead, hTail⟩ := List.forall_mem_cons.mp h
    rw [evalAny, evalAny, hHead, ih hTail]

theorem holdsAll_eq {conditions : List Condition}
    (h : ∀ c ∈ conditions, eval db a c = eval db' a' c) :
    holdsAll db a conditions = holdsAll db' a' conditions := by
  induction conditions with
  | nil => rfl
  | cons c cs ih =>
    obtain ⟨hHead, hTail⟩ := List.forall_mem_cons.mp h
    rw [holdsAll, holdsAll, hHead, ih hTail]

/-- **The truth of a condition that avoids secret columns** is the same on rows that agree. -/
theorem eval_eq (h : db.AgreeBut secret db') :
    ∀ (c : Condition) (m : Model), c.Avoids db.schema secret m →
      ∀ {a a' : Row}, Row.AgreeBut (secret m) a a' → eval db a c = eval db' a' c
  | .any conditions, m, hAvoids, a, a', hRow => by
    rw [Avoids, allAvoid_iff] at hAvoids
    rw [eval, eval]
    exact evalAny_eq fun c hc => eval_eq h c m (hAvoids c hc) hRow
  | .has rel target conditions, m, hAvoids, a, a', hRow => by
    rw [Avoids, allAvoid_iff] at hAvoids
    obtain ⟨hTarget, hRelation, hAvoids⟩ := hAvoids
    rw [eval, eval]
    refine congrArg some (any_eq_of_forall₂ (h.relatedRows hTarget hRelation hRow) ?_)
    intro b b' hOther
    exact holdsAll_eq fun c hc => eval_eq h c target (hAvoids c hc) hOther
  -- a comparison reads the cell of one column, which is none of the secret ones
  | .isNull c, m, hAvoids, a, a', hRow => by simp only [eval, hRow c.name hAvoids]
  | .notNull c, m, hAvoids, a, a', hRow => by simp only [eval, hRow c.name hAvoids]
  | .flag c _ _, m, hAvoids, a, a', hRow => by simp only [eval, hRow c.name hAvoids]
  | .compare c _ _, m, hAvoids, a, a', hRow => by simp only [eval, hRow c.name hAvoids]
  | .among c _, m, hAvoids, a, a', hRow => by simp only [eval, hRow c.name hAvoids]
  | .notAmong c _, m, hAvoids, a, a', hRow => by simp only [eval, hRow c.name hAvoids]
  | .like c _ _, m, hAvoids, a, a', hRow => by simp only [eval, hRow c.name hAvoids]
  | .between c _ _, m, hAvoids, a, a', hRow => by simp only [eval, hRow c.name hAvoids]
  | .documentHas c _ _ _, m, hAvoids, a, a', hRow => by simp only [eval, hRow c.name hAvoids]

/-! ## Rows that go wrong -/

namespace Test

/-- Are two tests the same on rows that agree? They find rows in the same way, have the same truth
and go wrong together. -/
structure Alike (names : List String) (t t' : Test) : Prop where
  access? : t.access? = t'.access?
  asksAround : t.asksAround = t'.asksAround
  truth : ∀ {a a' : Row}, Row.AgreeBut names a a' → t.truth a = t'.truth a'
  fault? : ∀ {a a' : Row}, Row.AgreeBut names a a' → t.fault? a = t'.fault? a'

variable {names : List String} {ts ts' : List Test} {rows rows' : List Row}

theorem Alike.isBest {t t' : Test} (h : List.Forall₂ (Alike names) ts ts')
    (hTest : Alike names t t') : Test.isBest ts t = Test.isBest ts' t' := by
  unfold Test.isBest
  rw [hTest.access?]
  cases t'.access? with
  | none => rfl
  | some access => exact all_eq_of_forall₂ h fun u u' hOther => by rw [hOther.access?]

theorem Alike.rank {t t' : Test} (h : List.Forall₂ (Alike names) ts ts')
    (hTest : Alike names t t') : Test.rank ts t = Test.rank ts' t' := by
  rw [Test.rank, Test.rank, hTest.isBest h, hTest.asksAround]

/-- Tests that are alike are made in the same order. -/
theorem Alike.ordered (h : List.Forall₂ (Alike names) ts ts') :
    List.Forall₂ (Alike names) (Test.ordered ts) (Test.ordered ts') := by
  apply forall₂_mergeSort h
  intro t t' u u' hFirst hSecond
  rw [hFirst.rank h, hSecond.rank h]

theorem Alike.bestAccess? (h : List.Forall₂ (Alike names) ts ts') :
    Test.bestAccess? ts = Test.bestAccess? ts' := by
  have hFind : ∀ us us', List.Forall₂ (Alike names) us us' →
      (us.find? (Test.isBest ts)).bind (·.access?) = (us'.find? (Test.isBest ts')).bind (·.access?) := by
    intro us us' hTests
    induction hTests with
    | nil => rfl
    | cons hHead _ ih =>
      simp only [List.find?_cons, hHead.isBest h]
      split
      · exact hHead.access?
      · exact ih
  exact hFind ts ts' h

theorem firstFault?_eq {stops : Option Bool → Bool} (h : List.Forall₂ (Alike names) ts ts')
    (hRow : Row.AgreeBut names a a') : firstFault? stops a ts = firstFault? stops a' ts' := by
  induction h with
  | nil => rfl
  | cons hHead _ ih => rw [firstFault?, firstFault?, hHead.fault? hRow, hHead.truth hRow, ih]

theorem allFault?_eq (h : List.Forall₂ (Alike names) ts ts') (hRow : Row.AgreeBut names a a') :
    allFault? ts a = allFault? ts' a' :=
  firstFault?_eq (Alike.ordered h) hRow

theorem allHold_eq (h : List.Forall₂ (Alike names) ts ts') (hRow : Row.AgreeBut names a a') :
    allHold ts a = allHold ts' a' :=
  all_eq_of_forall₂ h fun t t' hTest => by rw [hTest.truth hRow]

/-- Tests that are alike go wrong together on rows that agree. -/
theorem rowsFault?_eq (h : List.Forall₂ (Alike names) ts ts')
    (hRows : List.Forall₂ (Row.AgreeBut names) rows rows') (need? : Option Nat) :
    rowsFault? ts need? rows = rowsFault? ts' need? rows' := by
  induction hRows generalizing need? with
  | nil =>
    match need? with
    | some 0 => rfl
    | some (n + 1) => rfl
    | none => rfl
  | cons hHead _ ih =>
    match need? with
    | some 0 => rfl
    | some (n + 1) => simp only [rowsFault?, allFault?_eq h hHead, allHold_eq h hHead, ih]
    | none => simp only [rowsFault?, allFault?_eq h hHead, allHold_eq h hHead, ih]

end Test

theorem tests_alike (h : db.AgreeBut secret db') {conditions : List Condition}
    (hAvoids : ∀ c ∈ conditions, c.Avoids db.schema secret m)
    (hFault : ∀ c ∈ conditions, ∀ {a a' : Row}, Row.AgreeBut (secret m) a a' →
      fault? db m c a = fault? db' m c a') :
    List.Forall₂ (Test.Alike (secret m)) (tests db m conditions) (tests db' m conditions) := by
  induction conditions with
  | nil => exact .nil
  | cons c cs ih =>
    obtain ⟨hHere, hRest⟩ := List.forall_mem_cons.mp hAvoids
    rw [tests, tests]
    refine .cons ⟨rfl, rfl, fun hRow => eval_eq h c m hHere hRow, ?_⟩ (ih hRest ?_)
    · exact hFault c List.mem_cons_self
    · exact fun d hd => hFault d (List.mem_cons_of_mem c hd)

/-- **A condition that avoids secret columns** goes wrong together on rows that agree. -/
theorem fault?_eq (h : db.AgreeBut secret db') :
    ∀ (c : Condition) (m : Model), c.Avoids db.schema secret m →
      ∀ {a a' : Row}, Row.AgreeBut (secret m) a a' → fault? db m c a = fault? db' m c a'
  | .any conditions, m, hAvoids, a, a', hRow => by
    rw [Avoids, allAvoid_iff] at hAvoids
    rw [fault?, fault?]
    exact Test.firstFault?_eq (tests_alike h hAvoids fun c hc => fault?_eq h c m (hAvoids c hc)) hRow
  | .has rel target conditions, m, hAvoids, a, a', hRow => by
    rw [Avoids, allAvoid_iff] at hAvoids
    obtain ⟨hTarget, hRelation, hAvoids⟩ := hAvoids
    rw [fault?, fault?]
    exact Test.rowsFault?_eq
      (tests_alike h hAvoids fun c hc => fault?_eq h c target (hAvoids c hc))
      (h.relatedRows hTarget hRelation hRow) (some 1)
  | .documentHas c _ _ _, m, hAvoids, a, a', hRow => by simp only [fault?, hRow c.name hAvoids]
  | .like .., _, _, _, _, _ => by simp only [fault?]
  | .isNull _, _, _, _, _, _ => by simp only [fault?]
  | .notNull _, _, _, _, _, _ => by simp only [fault?]
  | .flag .., _, _, _, _, _ => by simp only [fault?]
  | .compare .., _, _, _, _, _ => by simp only [fault?]
  | .among .., _, _, _, _, _ => by simp only [fault?]
  | .notAmong .., _, _, _, _, _ => by simp only [fault?]
  | .between .., _, _, _, _, _ => by simp only [fault?]

end Condition

/-! ## Selections -/

namespace Selection

/-- Does the selection look at no secret column, neither for its conditions nor for its order? -/
structure Avoids (schema : Schema) (secret : Model → List String) (s : Selection) : Prop where
  model : s.model ∈ schema
  conditions : ∀ c ∈ s.conditions, c.Avoids schema secret s.model
  order : ∀ k ∈ s.order, k.column ∉ secret s.model

variable {s : Selection}

theorem compareAll_eq {names : List String} {keys : List OrderKey}
    (hKeys : ∀ k ∈ keys, k.column ∉ names) (hFirst : Row.AgreeBut names a a')
    (hSecond : Row.AgreeBut names b b') :
    OrderKey.compareAll keys a b = OrderKey.compareAll keys a' b' := by
  induction keys with
  | nil => rfl
  | cons k ks ih =>
    obtain ⟨hHead, hTail⟩ := List.forall_mem_cons.mp hKeys
    rw [OrderKey.compareAll, OrderKey.compareAll, OrderKey.compare, OrderKey.compare,
      hFirst k.column hHead, hSecond k.column hHead, ih hTail]

/-- Rows that agree stay together when they are put in order. -/
theorem Avoids.agree_inOrder (hAvoids : s.Avoids db.schema secret) {rows rows' : List Row}
    (hRows : List.Forall₂ (Row.AgreeBut (secret s.model)) rows rows') :
    List.Forall₂ (Row.AgreeBut (secret s.model)) (s.inOrder rows) (s.inOrder rows') := by
  apply forall₂_mergeSort hRows
  intro a a' b b' hFirst hSecond
  rw [compareAll_eq hAvoids.order hFirst hSecond]

theorem Avoids.agree_matching (hAvoids : s.Avoids db.schema secret) (h : db.AgreeBut secret db') :
    List.Forall₂ (Row.AgreeBut (secret s.model)) (s.matching db) (s.matching db') := by
  refine List.rel_filter (fun a a' hRow => ?_) (h.rows s.model hAvoids.model)
  exact Bool.eq_iff_iff.mp (Condition.holdsAll_eq fun c hc =>
    Condition.eval_eq h c s.model (hAvoids.conditions c hc) hRow)

/-- **The rows of a selection that avoids secret columns** agree, one by one and in their order. -/
theorem Avoids.agree_ordered (hAvoids : s.Avoids db.schema secret) (h : db.AgreeBut secret db') :
    List.Forall₂ (Row.AgreeBut (secret s.model)) (s.ordered db) (s.ordered db') :=
  hAvoids.agree_inOrder (hAvoids.agree_matching h)

/-- **A selection that avoids secret columns** is answered or refused together, and for the same
reason. -/
theorem Avoids.check_eq (hAvoids : s.Avoids db.schema secret) (h : db.AgreeBut secret db')
    (q : Query) : s.check db q = s.check db' q := by
  have hTests := Condition.tests_alike h hAvoids.conditions fun c hc =>
    Condition.fault?_eq h c s.model (hAvoids.conditions c hc)
  have hRows := h.rows s.model hAvoids.model
  have hFound : s.isFoundInOrder (Condition.tests db s.model s.conditions) =
      s.isFoundInOrder (Condition.tests db' s.model s.conditions) := by
    rw [isFoundInOrder, isFoundInOrder, Condition.Test.Alike.bestAccess? hTests]
  have hFault : s.fault? db q = s.fault? db' q := by
    simp only [fault?, hFound, Condition.Test.rowsFault?_eq hTests hRows,
      Condition.Test.rowsFault?_eq hTests (hAvoids.agree_inOrder hRows)]
  rw [check, check, hFault]

theorem Avoids.count_eq (hAvoids : s.Avoids db.schema secret) (h : db.AgreeBut secret db') :
    s.count db = s.count db' := by
  rw [count, count, hAvoids.check_eq h, (hAvoids.agree_matching h).length_eq]

theorem agree_window {names : List String} {rows rows' : List Row}
    (h : List.Forall₂ (Row.AgreeBut names) rows rows') (size offset : Int) :
    List.Forall₂ (Row.AgreeBut names) (window rows size offset) (window rows' size offset) := by
  have hRest := List.forall₂_drop offset.toNat h
  unfold window
  dsimp only
  split
  · exact hRest
  · exact List.forall₂_take size.toNat hRest

variable {γ : Type} {f g : Row → Except Error γ}

/-- What is made of all rows is the same, if the same is made of rows that agree. -/
theorem Avoids.all_bind_eq (hAvoids : s.Avoids db.schema secret) (h : db.AgreeBut secret db')
    (hSame : ∀ a b, Row.AgreeBut (secret s.model) a b → f a = g b) :
    s.all db >>= List.mapM f = s.all db' >>= List.mapM g := by
  have hRows := hAvoids.agree_ordered h
  unfold all
  split
  · simp only [hAvoids.check_eq h, bind_assoc, pure_bind, mapM_eq_of_forall₂ hRows hSame]
  · simp only [hAvoids.check_eq h, bind_assoc, pure_bind,
      mapM_eq_of_forall₂ (agree_window hRows _ _) hSame]

/-- What is made of the rows of a page is the same, if the same is made of rows that agree. -/
theorem Avoids.page_bind_eq (hAvoids : s.Avoids db.schema secret) (h : db.AgreeBut secret db')
    (hSame : ∀ a b, Row.AgreeBut (secret s.model) a b → f a = g b) (perPage page : Int) :
    s.page db perPage page >>= List.mapM f = s.page db' perPage page >>= List.mapM g := by
  have hRows := hAvoids.agree_ordered h
  unfold Selection.page
  dsimp only
  split
  · rfl
  · simp only [hAvoids.check_eq h, bind_assoc, pure_bind,
      mapM_eq_of_forall₂ (agree_window hRows _ _) hSame]

end Selection

end Winnow
