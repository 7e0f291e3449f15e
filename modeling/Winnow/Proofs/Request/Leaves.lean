import Winnow.Proofs.Request.Params

/-!
# Winnow.Proofs.Request.Leaves — nested mappings as pairs

A tree of parameters is a mapping if no name stands twice in a node (`Param.isMapping`). The tree that
pairs spell always is (`Param.areMappings_ofPairs`).

A mapping is written leaf by leaf (`Param.spelled`): a text as one pair, a list as one pair for each
item, under the key that the way from the root spells. What these pairs say below a name is what the
part says that has this name (`Param.below_leavesOf`). So only the items of a list share their key
(`Param.length_filter_leaves_le`).
-/

namespace Winnow

open BracketKey

namespace Param

/-! ## Parts -/

mutual

/-- What holds of texts and lists, and of a node if it holds of its children, holds of every part. -/
@[elab_as_elim, induction_eliminator]
theorem induction_mem {motive : Param → Prop} (text : ∀ s, motive (text s))
    (list : ∀ items, motive (list items))
    (node : ∀ cs : List (String × Param), (∀ c ∈ cs, motive c.2) → motive (node cs)) :
    ∀ p, motive p
  | .text s => text s
  | .list items => list items
  | .node cs => node cs (forall_mem text list node cs)

theorem forall_mem {motive : Param → Prop} (text : ∀ s, motive (.text s))
    (list : ∀ items, motive (.list items))
    (node : ∀ cs : List (String × Param), (∀ c ∈ cs, motive c.2) → motive (.node cs)) :
    ∀ cs : List (String × Param), ∀ c ∈ cs, motive c.2
  | [], _, hMem => nomatch hMem
  | (_, p) :: cs, c, hMem => by
    rcases List.mem_cons.mp hMem with rfl | hMem
    · exact induction_mem text list node p
    · exact forall_mem text list node cs c hMem

end

theorem mem_of_get? {name : String} {p : Param} {cs : List (String × Param)}
    (h : get? name cs = some p) : (name, p) ∈ cs := by
  obtain ⟨c, hFind, rfl⟩ := Option.map_eq_some_iff.mp h
  have hName : c.1 = name := by simpa using List.find?_some hFind
  exact hName ▸ List.mem_of_find?_eq_some hFind

/-! ## Mappings -/

mutual

/-- Does no name stand twice in a node? -/
def isMapping : Param → Bool
  | text _ => true
  | list _ => true
  | node cs => areMappings cs

/-- Are the children mappings, and do no two of them share a name? -/
def areMappings : List (String × Param) → Bool
  | [] => true
  | (name, p) :: cs => (get? name cs).isNone && isMapping p && areMappings cs

end

theorem areMappings_cons {c : String × Param} {cs : List (String × Param)} :
    areMappings (c :: cs) = true ↔
      get? c.1 cs = none ∧ isMapping c.2 = true ∧ areMappings cs = true := by
  simp only [areMappings, Bool.and_eq_true, Option.isNone_iff_eq_none, and_assoc]

theorem isMapping_of_mem {c : String × Param} {cs : List (String × Param)}
    (hMapping : areMappings cs = true) (h : c ∈ cs) : isMapping c.2 = true := by
  induction cs with
  | nil => cases h
  | cons first cs ih =>
    obtain ⟨-, hHead, hRest⟩ := areMappings_cons.mp hMapping
    rcases List.mem_cons.mp h with rfl | h
    · exact hHead
    · exact ih hRest h

theorem areMappings_set {name : String} {p : Param} {cs : List (String × Param)}
    (hMapping : areMappings cs = true) (hPart : isMapping p = true) :
    areMappings (set name p cs) = true := by
  induction cs with
  | nil => exact areMappings_cons.mpr ⟨rfl, hPart, rfl⟩
  | cons c cs ih =>
    obtain ⟨hNew, hHead, hRest⟩ := areMappings_cons.mp hMapping
    rw [set]
    by_cases hName : c.1 = name
    · rw [if_pos (by simpa using hName)]
      exact areMappings_cons.mpr ⟨hName ▸ hNew, hPart, hRest⟩
    · rw [if_neg (by simpa using hName)]
      refine areMappings_cons.mpr ⟨?_, hHead, ih hRest⟩
      rw [get?_set, if_neg (Ne.symm hName), hNew]

theorem areMappings_children (name : String) {cs : List (String × Param)}
    (hMapping : areMappings cs = true) : areMappings (children (get? name cs)) = true := by
  cases hPart : get? name cs with
  | none => rfl
  | some p =>
    have hMem := isMapping_of_mem hMapping (mem_of_get? hPart)
    cases p with
    | text s => rfl
    | list items => rfl
    | node ds => exact hMem

/-- **A pair leaves no name twice**, wherever its value comes to stand. -/
theorem areMappings_store (slot : Slot) (value : String) (path : List String)
    {cs : List (String × Param)} (hMapping : areMappings cs = true) :
    areMappings (store slot value path cs) = true := by
  induction path generalizing cs with
  | nil => exact hMapping
  | cons name path ih =>
    have hOld := areMappings_children name hMapping
    rw [store_cons]
    refine areMappings_set hMapping ?_
    cases path with
    | nil =>
      cases slot with
      | assign => rfl
      | append => rfl
      | visit => exact hOld
    | cons next path => exact ih hOld

theorem areMappings_ofPairs (pairs : List (String × String)) : areMappings (ofPairs pairs) = true := by
  rw [ofPairs]
  exact List.foldlRecOn pairs add (motive := fun cs => areMappings cs = true) rfl
    fun _ hMapping pair _ => areMappings_store _ pair.2 _ hMapping

/-! ## Parts that can be written -/

mutual

/-- Can all parts be written? The names are names for keys, and no list and no node is empty. -/
def isWritable : Param → Bool
  | text _ => true
  | list items => !items.isEmpty
  | node cs => !cs.isEmpty && areWritable cs

/-- Can all children be written? -/
def areWritable : List (String × Param) → Bool
  | [] => true
  | (name, p) :: cs => isName name && isWritable p && areWritable cs

end

theorem areWritable_iff {cs : List (String × Param)} :
    areWritable cs = true ↔ ∀ c ∈ cs, isName c.1 = true ∧ isWritable c.2 = true := by
  induction cs with
  | nil => simp [areWritable]
  | cons c cs ih => simp [areWritable, ih, and_assoc]

theorem isWritable_node {cs : List (String × Param)} :
    (node cs).isWritable = true ↔ cs ≠ [] ∧ areWritable cs = true := by
  simp [isWritable]

/-! ## Leaves -/

end Param

/-- The same place, seen from one level further up. -/
def BracketKey.under (name : String) (k : BracketKey) : BracketKey := ⟨name :: k.path, k.slot⟩

namespace Param

mutual

/-- The texts and the items of all lists, each with its place. -/
def leaves : Param → List (BracketKey × String)
  | text s => [(⟨[], .assign⟩, s)]
  | list items => items.map fun item => (⟨[], .append⟩, item)
  | node cs => leavesOf cs

/-- The leaves below the names of all children. -/
def leavesOf : List (String × Param) → List (BracketKey × String)
  | [] => []
  | (name, p) :: cs => (leaves p).map (fun leaf => (under name leaf.1, leaf.2)) ++ leavesOf cs

end

/-- A mapping as pairs: the leaves with the keys that their places spell. -/
def spelled (cs : List (String × Param)) : List (String × String) :=
  (leavesOf cs).map fun leaf => (spell leaf.1, leaf.2)

theorem mem_leavesOf {cs : List (String × Param)} {leaf : BracketKey × String}
    (h : leaf ∈ leavesOf cs) : ∃ c ∈ cs, ∃ inner ∈ leaves c.2, leaf = (under c.1 inner.1, inner.2) := by
  induction cs with
  | nil => cases h
  | cons c cs ih =>
    rw [leavesOf, List.mem_append, List.mem_map] at h
    rcases h with ⟨inner, hInner, rfl⟩ | h
    · exact ⟨c, List.mem_cons_self, inner, hInner, rfl⟩
    · obtain ⟨d, hMem, hLeaf⟩ := ih h
      exact ⟨d, List.mem_cons_of_mem c hMem, hLeaf⟩

theorem path_ne_nil_of_mem_leavesOf {cs : List (String × Param)} {leaf : BracketKey × String}
    (h : leaf ∈ leavesOf cs) : leaf.1.path ≠ [] := by
  obtain ⟨c, -, inner, -, rfl⟩ := mem_leavesOf h
  exact List.cons_ne_nil _ _

/-- What can be written has a leaf. -/
theorem leaves_ne_nil {p : Param} (h : p.isWritable = true) : leaves p ≠ [] := by
  induction p with
  | text s => exact List.cons_ne_nil _ _
  | list items => simpa [isWritable, leaves] using h
  | node cs ih =>
    obtain ⟨hSome, hWritable⟩ := isWritable_node.mp h
    obtain ⟨c, rest, rfl⟩ := List.exists_cons_of_ne_nil hSome
    have hFirst := ih c List.mem_cons_self (areWritable_iff.mp hWritable c List.mem_cons_self).2
    simp [leaves, leavesOf, hFirst]

/-- The names on the way to a leaf are names for keys. -/
theorem all_isName_of_mem_leaves {p : Param} (h : p.isWritable = true) :
    ∀ leaf ∈ leaves p, leaf.1.path.all isName = true := by
  induction p with
  | text s =>
    intro leaf hMem
    rw [List.mem_singleton.mp hMem]
    rfl
  | list items =>
    intro leaf hMem
    obtain ⟨item, -, rfl⟩ := List.mem_map.mp hMem
    rfl
  | node cs ih =>
    intro leaf hMem
    obtain ⟨c, hChild, inner, hInner, rfl⟩ := mem_leavesOf hMem
    obtain ⟨hName, hPart⟩ := areWritable_iff.mp (isWritable_node.mp h).2 c hChild
    rw [under, List.all_cons, hName, ih c hChild hPart inner hInner]
    rfl

/-- A leaf has a key that reads as its place. -/
theorem isSpelled_of_mem_leavesOf {cs : List (String × Param)} (hWritable : areWritable cs = true)
    {leaf : BracketKey × String} (h : leaf ∈ leavesOf cs) : leaf.1.isSpelled = true := by
  obtain ⟨c, hChild, inner, hInner, rfl⟩ := mem_leavesOf h
  obtain ⟨hName, hPart⟩ := areWritable_iff.mp hWritable c hChild
  simp [isSpelled, under, hName, all_isName_of_mem_leaves hPart inner hInner]

end Param

/-! ## Leaves below a name -/

/-- The same place, seen from below a name; none if the way to it does not begin there. -/
def BracketKey.below? (name : String) (k : BracketKey) : Option BracketKey :=
  match k.path with
  | [] => none
  | first :: path => if first = name then some ⟨path, k.slot⟩ else none

theorem BracketKey.below?_eq_some_iff (name : String) (k l : BracketKey) :
    below? name k = some l ↔ k = under name l := by
  obtain ⟨path, slot⟩ := k
  obtain ⟨path', slot'⟩ := l
  cases path with
  | nil => simp [below?, under]
  | cons first path => simp [below?, under, and_assoc]

theorem BracketKey.below?_under (name other : String) (k : BracketKey) :
    below? name (under other k) = if other = name then some k else none := rfl

/-- Values for places below a name, with the places as they are seen from there. -/
def below (name : String) (ops : List (BracketKey × String)) : List (BracketKey × String) :=
  ops.filterMap fun op => (below? name op.1).map (·, op.2)

theorem filter_below (name : String) (key : BracketKey) (ops : List (BracketKey × String)) :
    (below name ops).filter (·.1 == key) =
      (ops.filter (·.1 == under name key)).map fun op => (key, op.2) := by
  induction ops with
  | nil => rfl
  | cons op ops ih =>
    rw [below] at ih ⊢
    cases hBelow : below? name op.1 with
    | none =>
      have hOther : ¬ op.1 = under name key := by
        rw [← below?_eq_some_iff, hBelow]
        exact fun h => nomatch h
      simp [hBelow, hOther, ih]
    | some k =>
      have hKey : op.1 = under name key ↔ k = key := by
        rw [← below?_eq_some_iff, hBelow, Option.some_inj]
      by_cases hEq : k = key
      · simp [hBelow, hKey, hEq, ih]
      · simp [hBelow, hKey, hEq, ih]

namespace Param

theorem below_under (name other : String) (leaves : List (BracketKey × String)) :
    below name (leaves.map fun leaf => (under other leaf.1, leaf.2)) =
      if other = name then leaves else [] := by
  rw [below, List.filterMap_map, Function.comp_def]
  by_cases hName : other = name
  · simp [below?_under, hName]
  · simp [below?_under, hName]

/-- **The leaves below a name** are those of the child that has it. -/
theorem below_leavesOf {cs : List (String × Param)} (hMapping : areMappings cs = true)
    (name : String) : below name (leavesOf cs) = ((get? name cs).map leaves).getD [] := by
  induction cs with
  | nil => rfl
  | cons c cs ih =>
    obtain ⟨hNew, -, hRest⟩ := areMappings_cons.mp hMapping
    have hAppend : below name (leavesOf (c :: cs)) =
        (if c.1 = name then leaves c.2 else []) ++ below name (leavesOf cs) := by
      rw [← below_under, leavesOf, below, List.filterMap_append]
      rfl
    rw [hAppend, ih hRest, get?_cons]
    by_cases hName : c.1 = name
    · simp [← hName, hNew]
    · simp [hName]

/-- Only the items of one list share their place. -/
theorem length_filter_leaves_le {p : Param} (hMapping : p.isMapping = true) (key : BracketKey)
    (hSlot : key.slot ≠ .append) : ((leaves p).filter (·.1 == key)).length ≤ 1 := by
  -- below a name the key loses its first segment
  induction p generalizing key with
  | text s => exact List.length_filter_le _ _
  | list items =>
    have hNone : (leaves (list items)).filter (·.1 == key) = [] := by
      refine List.filter_eq_nil_iff.mpr fun leaf hMem hKey => ?_
      obtain ⟨item, -, rfl⟩ := List.mem_map.mp hMem
      exact hSlot (congrArg BracketKey.slot (beq_iff_eq.mp hKey)).symm
    rw [hNone]
    exact Nat.zero_le 1
  | node cs ih =>
    obtain ⟨path, slot⟩ := key
    cases path with
    | nil =>
      have hNone : (leavesOf cs).filter (·.1 == ⟨[], slot⟩) = [] :=
        List.filter_eq_nil_iff.mpr fun leaf hMem hKey =>
          path_ne_nil_of_mem_leavesOf hMem (congrArg BracketKey.path (beq_iff_eq.mp hKey))
      rw [leaves, hNone]
      exact Nat.zero_le 1
    | cons name path =>
      have hBelow := congrArg List.length (filter_below name ⟨path, slot⟩ (leavesOf cs))
      rw [List.length_map, below_leavesOf hMapping] at hBelow
      refine hBelow.symm.trans_le ?_
      cases hPart : get? name cs with
      | none => exact Nat.zero_le 1
      | some q =>
        have hMem := mem_of_get? hPart
        exact ih (name, q) hMem (isMapping_of_mem hMapping hMem) ⟨path, slot⟩ hSlot

end Param

end Winnow
