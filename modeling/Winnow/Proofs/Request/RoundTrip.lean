import Winnow.Proofs.Request.Leaves
import Mathlib.Data.Option.Defs
import Mathlib.Data.List.Perm.Basic

/-!
# Winnow.Proofs.Request.RoundTrip — mappings that are written and read

The pairs of a nested mapping may come in any order that the items of each list keep. What stands
under a name after many pairs depends on those alone whose keys begin with this name
(`Param.get?_storeAll`). Seen from there they are an interleaving of the leaves of one part
(`Interleaves.below`), and so the tree that is read agrees with the one that has been written, level by
level (`Param.interleaved_pairs_read_back`).
-/

namespace Winnow

/-! ## Interleavings -/

/-- The same values for the same places, and those for one place in the same order. -/
structure Interleaves (ops leaves : List (BracketKey × String)) : Prop where
  perm : ops.Perm leaves
  order : ∀ key, ops.filter (·.1 == key) = leaves.filter (·.1 == key)

namespace Interleaves

variable {ops leaves : List (BracketKey × String)}

/-- A single value for a place needs no order. -/
theorem of_shared (hPerm : ops.Perm leaves)
    (h : ∀ key, (leaves.filter (·.1 == key)).length ≤ 1 ∨
      ops.filter (·.1 == key) = leaves.filter (·.1 == key)) : Interleaves ops leaves := by
  refine ⟨hPerm, fun key => ?_⟩
  rcases h key with hLength | hEq
  · have hFilter := hPerm.filter (·.1 == key)
    rcases Nat.le_one_iff_eq_zero_or_eq_one.mp hLength with hZero | hOne
    · rw [List.length_eq_zero_iff.mp hZero] at hFilter ⊢
      exact hFilter.eq_nil
    · obtain ⟨leaf, hSingle⟩ := List.length_eq_one_iff.mp hOne
      rw [hSingle] at hFilter ⊢
      exact List.perm_singleton.mp hFilter
  · exact hEq

theorem eq_nil (h : Interleaves ops []) : ops = [] := h.perm.eq_nil

/-- Values for one single place can only be interleaved in one way. -/
theorem eq_of_forall_key (h : Interleaves ops leaves) (key : BracketKey)
    (hKey : ∀ leaf ∈ leaves, leaf.1 = key) : ops = leaves := by
  have hOps : ops.filter (·.1 == key) = ops :=
    List.filter_eq_self.mpr fun op hMem => beq_iff_eq.mpr (hKey op (h.perm.mem_iff.mp hMem))
  have hLeaves : leaves.filter (·.1 == key) = leaves :=
    List.filter_eq_self.mpr fun leaf hMem => beq_iff_eq.mpr (hKey leaf hMem)
  rw [← hOps, h.order, hLeaves]

/-- Below a name, an interleaving is one of what is there. -/
theorem below (h : Interleaves ops leaves) (name : String) :
    Interleaves (below name ops) (below name leaves) :=
  ⟨h.perm.filterMap _, fun key => by rw [filter_below, filter_below, h.order]⟩

end Interleaves

open BracketKey

namespace Param

/-! ## Many pairs -/

/-- The tree after values have come to their places. -/
def storeAll (ops : List (BracketKey × String)) (cs : List (String × Param)) :
    List (String × Param) :=
  ops.foldl (fun cs op => store op.1.slot op.2 op.1.path cs) cs

/-- What stands at the beginning of the ways after values have come to their ends. -/
def putAll (ops : List (BracketKey × String)) (old : Option Param) : Option Param :=
  ops.foldl (fun old op => some (put op.1.slot op.2 op.1.path old)) old

/-- Pairs are values for the places that their keys read as. -/
theorem ofPairs_eq_storeAll (pairs : List (String × String)) :
    ofPairs pairs = storeAll (pairs.map fun pair => (read pair.1, pair.2)) [] := by
  rw [ofPairs, storeAll, List.foldl_map]
  rfl

/-- **Names do not disturb each other.** What stands under one of them comes from the pairs whose ways
begin there, in the order in which they come. -/
theorem get?_storeAll (name : String) (ops : List (BracketKey × String)) (cs : List (String × Param)) :
    get? name (storeAll ops cs) = putAll (below name ops) (get? name cs) := by
  induction ops generalizing cs with
  | nil => rfl
  | cons op ops ih =>
    obtain ⟨⟨path, slot⟩, value⟩ := op
    rw [storeAll, List.foldl_cons, ← storeAll, ih]
    cases path with
    | nil => rfl
    | cons first path =>
      rw [store_cons, get?_set]
      by_cases hName : first = name
      · subst hName
        simp [below, below?, putAll]
      · simp [below, below?, hName]

/-- Values whose ways go on leave a node. -/
theorem putAll_node {ops : List (BracketKey × String)} (hPaths : ∀ op ∈ ops, op.1.path ≠ [])
    (cs : List (String × Param)) : putAll ops (some (node cs)) = some (node (storeAll ops cs)) := by
  induction ops generalizing cs with
  | nil => rfl
  | cons op ops ih =>
    obtain ⟨⟨path, slot⟩, value⟩ := op
    obtain ⟨hPath, hRest⟩ := List.forall_mem_cons.mp hPaths
    obtain ⟨name, path, rfl⟩ := List.exists_cons_of_ne_nil hPath
    exact ih hRest _

theorem putAll_none {ops : List (BracketKey × String)} (hSome : ops ≠ [])
    (hPaths : ∀ op ∈ ops, op.1.path ≠ []) : putAll ops none = some (node (storeAll ops [])) := by
  rw [← putAll_node hPaths]
  obtain ⟨⟨⟨path, slot⟩, value⟩, rest, rfl⟩ := List.exists_cons_of_ne_nil hSome
  obtain ⟨name, path, rfl⟩ := List.exists_cons_of_ne_nil (List.forall_mem_cons.mp hPaths).1
  rfl

/-- Values for a list become its last items. -/
theorem putAll_list (items xs : List String) :
    putAll (items.map fun item => (⟨[], .append⟩, item)) (some (list xs)) =
      some (list (xs ++ items)) := by
  induction items generalizing xs with
  | nil =>
    rw [List.append_nil]
    rfl
  | cons item items ih =>
    rw [List.append_cons]
    exact ih (xs ++ [item])

/-! ## The round trip -/

/-- The same texts and lists under the same names, in whatever order the names stand. -/
inductive Agrees : Param → Param → Prop where
  | text (s : String) : Agrees (text s) (text s)
  | list (items : List String) : Agrees (list items) (list items)
  | node {cs ds : List (String × Param)} :
      (∀ name, Option.Rel Agrees (get? name cs) (get? name ds)) → Agrees (node cs) (node ds)

/-- Do the leaves of a part leave this part, in whatever order they come? -/
def IsRecovered (p : Param) : Prop :=
  ∀ ops, Interleaves ops (leaves p) → Option.Rel Agrees (putAll ops none) (some p)

/-- A node is recovered name by name. -/
theorem rel_get?_storeAll {cs : List (String × Param)} (hMapping : areMappings cs = true)
    (hParts : ∀ c ∈ cs, c.2.IsRecovered) {ops : List (BracketKey × String)}
    (h : Interleaves ops (leavesOf cs)) (name : String) :
    Option.Rel Agrees (get? name (storeAll ops [])) (get? name cs) := by
  have hBelow := h.below name
  rw [below_leavesOf hMapping] at hBelow
  rw [get?_storeAll, get?_nil]
  cases hPart : get? name cs with
  | none =>
    rw [hPart] at hBelow
    rw [hBelow.eq_nil]
    exact .none
  | some p =>
    rw [hPart] at hBelow
    exact hParts (name, p) (mem_of_get? hPart) _ hBelow

/-- **Leaves are put together again.** -/
theorem isRecovered {p : Param} (hMapping : p.isMapping = true) (hWritable : p.isWritable = true) :
    p.IsRecovered := by
  intro ops h
  -- for every order at once: below a name there is another one
  induction p generalizing ops with
  | text s =>
    have hOps : ops = leaves (text s) :=
      h.eq_of_forall_key ⟨[], .assign⟩ fun q hMem => congrArg Prod.fst (List.mem_singleton.mp hMem)
    rw [hOps]
    exact .some (.text s)
  | list items =>
    have hOps : ops = leaves (list items) := by
      refine h.eq_of_forall_key ⟨[], .append⟩ fun q hMem => ?_
      obtain ⟨item, -, rfl⟩ := List.mem_map.mp hMem
      rfl
    have hSome : items ≠ [] := by simpa [isWritable] using hWritable
    obtain ⟨first, rest, rfl⟩ := List.exists_cons_of_ne_nil hSome
    have hPut : putAll ops none = some (list (first :: rest)) := by
      rw [hOps]
      exact putAll_list rest [first]
    rw [hPut]
    exact .some (.list _)
  | node cs ih =>
    have hPaths : ∀ op ∈ ops, op.1.path ≠ [] := fun op hMem =>
      path_ne_nil_of_mem_leavesOf (h.perm.mem_iff.mp hMem)
    -- without a leaf, nothing would be there, not even an empty node
    have hSome : ops ≠ [] := fun hNil =>
      leaves_ne_nil hWritable (hNil ▸ h.perm).nil_eq.symm
    have hChildren := areWritable_iff.mp (isWritable_node.mp hWritable).2
    have hParts : ∀ c ∈ cs, c.2.IsRecovered := fun c hMem =>
      ih c hMem (isMapping_of_mem hMapping hMem) (hChildren c hMem).2
    rw [putAll_none hSome hPaths]
    exact .some (.node (rel_get?_storeAll hMapping hParts h))

section Spelled

variable {cs : List (String × Param)} {pairs : List (String × String)}

/-- Keys of leaves are read back. -/
theorem map_read_spelled (hWritable : areWritable cs = true) :
    (spelled cs).map (fun pair => (read pair.1, pair.2)) = leavesOf cs := by
  rw [spelled, List.map_map]
  refine (List.map_congr_left fun leaf hMem => ?_).trans (List.map_id _)
  exact congrArg (·, leaf.2) (read_spell (isSpelled_of_mem_leavesOf hWritable hMem))

/-- Among keys of leaves, a place is named by its key alone. -/
theorem filter_read (hWritable : areWritable cs = true) {leaf : BracketKey × String}
    (hLeaf : leaf ∈ leavesOf cs) (hPairs : ∀ pair ∈ pairs, pair ∈ spelled cs) :
    pairs.filter (fun pair => read pair.1 == leaf.1) = pairs.filter (·.1 == spell leaf.1) := by
  refine List.filter_congr fun pair hPair => ?_
  obtain ⟨other, hOther, rfl⟩ := List.mem_map.mp (hPairs pair hPair)
  have hRead := read_spell (isSpelled_of_mem_leavesOf hWritable hLeaf)
  have hOtherRead := read_spell (isSpelled_of_mem_leavesOf hWritable hOther)
  rw [Bool.eq_iff_iff, beq_iff_eq, beq_iff_eq, hOtherRead]
  refine ⟨congrArg spell, fun hKey => ?_⟩
  rw [← hOtherRead, ← hRead]
  exact congrArg read hKey

/-- **The pairs of a mapping read as an interleaving of its leaves.** The order of the items of each
list is all the order that they have to keep. -/
theorem interleaves_read (hMapping : areMappings cs = true) (hWritable : areWritable cs = true)
    (hPerm : pairs.Perm (spelled cs))
    (hItems : ∀ path, pairs.filter (·.1 == spell ⟨path, .append⟩) =
      (spelled cs).filter (·.1 == spell ⟨path, .append⟩)) :
    Interleaves (pairs.map fun pair => (read pair.1, pair.2)) (leavesOf cs) := by
  have hLeaves := map_read_spelled hWritable
  refine .of_shared (hLeaves ▸ hPerm.map _) fun key => ?_
  by_cases hSlot : key.slot = .append
  · by_cases hLeaf : ∃ leaf ∈ leavesOf cs, leaf.1 = key
    · obtain ⟨leaf, hMem, rfl⟩ := hLeaf
      have hPlace : leaf.1 = ⟨leaf.1.path, .append⟩ := congrArg (BracketKey.mk leaf.1.path) hSlot
      have hFilter : pairs.filter (fun pair => read pair.1 == leaf.1) =
          (spelled cs).filter (fun pair => read pair.1 == leaf.1) := by
        rw [filter_read hWritable hMem fun _ => hPerm.mem_iff.mp,
          filter_read hWritable hMem fun _ => id, hPlace]
        exact hItems leaf.1.path
      right
      rw [← hLeaves, List.filter_map, List.filter_map]
      exact congrArg _ hFilter
    · -- the key is of no leaf, so it may be one that reads as another place
      have hNone : (leavesOf cs).filter (·.1 == key) = [] :=
        List.filter_eq_nil_iff.mpr fun leaf hMem hKey => hLeaf ⟨leaf, hMem, beq_iff_eq.mp hKey⟩
      rw [hNone]
      exact .inl (Nat.zero_le 1)
  · exact .inl (length_filter_leaves_le (p := node cs) hMapping key hSlot)

end Spelled

/-- **A nested mapping that is written as pairs is read back**, in whatever order the pairs come as
long as the items of each list keep theirs. -/
theorem interleaved_pairs_read_back (cs : List (String × Param)) (pairs : List (String × String))
    (hMapping : areMappings cs = true) (hWritable : areWritable cs = true)
    (hPerm : pairs.Perm (spelled cs))
    (hItems : ∀ path, pairs.filter (·.1 == spell ⟨path, .append⟩) =
      (spelled cs).filter (·.1 == spell ⟨path, .append⟩)) :
    areMappings (ofPairs pairs) = true ∧ Agrees (node (ofPairs pairs)) (node cs) := by
  have hLeaves := interleaves_read hMapping hWritable hPerm hItems
  have hParts : ∀ c ∈ cs, c.2.IsRecovered := fun c hMem =>
    isRecovered (isMapping_of_mem hMapping hMem) (areWritable_iff.mp hWritable c hMem).2
  refine ⟨areMappings_ofPairs pairs, .node ?_⟩
  rw [ofPairs_eq_storeAll]
  exact rel_get?_storeAll hMapping hParts hLeaves

/-- A filter and a sort. The items of the list come apart, and the sort first. -/
theorem interleaved_pairs_read_back_tags :
    spelled [("filter", .node [("tags", .list ["a", "b"]), ("price", .node [("gte", .text "100")])]),
      ("sort", .text "-price")] =
      [("filter[tags][]", "a"), ("filter[tags][]", "b"), ("filter[price][gte]", "100"),
        ("sort", "-price")] ∧
    areMappings (ofPairs [("sort", "-price"), ("filter[tags][]", "a"), ("filter[price][gte]", "100"),
      ("filter[tags][]", "b")]) = true ∧
    Agrees (node (ofPairs [("sort", "-price"), ("filter[tags][]", "a"), ("filter[price][gte]", "100"),
        ("filter[tags][]", "b")]))
      (node [("filter", .node [("tags", .list ["a", "b"]), ("price", .node [("gte", .text "100")])]),
        ("sort", .text "-price")]) := by
  have hSpelled : spelled [("filter", .node [("tags", .list ["a", "b"]),
      ("price", .node [("gte", .text "100")])]), ("sort", .text "-price")] =
      [("filter[tags][]", "a"), ("filter[tags][]", "b"), ("filter[price][gte]", "100"),
        ("sort", "-price")] := by decide
  refine ⟨hSpelled, interleaved_pairs_read_back _ _ (by decide) (by decide) ?_ fun path => ?_⟩
  · rw [hSpelled]
    decide
  · rw [hSpelled]
    -- of any single key, not only of a list, the pairs are the same
    generalize spell ⟨path, .append⟩ = key
    by_cases hTags : "filter[tags][]" = key
    · subst hTags
      decide
    · by_cases hSort : "sort" = key
      · subst hSort
        decide
      · simp [List.filter_cons, hTags, hSort]

end Param

end Winnow
