import Winnow.Proofs.Request.BracketKey

/-!
# Winnow.Proofs.Request.Params — what a pair leaves in the tree

One pair changes what stands under one name and nothing beside it (`Param.store_cons`,
`Param.get?_set`), whatever other pairs have left there: a text, a list or a node. So after the pair
the names of its key lead to what the key puts there (`Param.follow?_put`).

`last_pair_stands`: the value of the last pair stands at the place of its key, alone or as
the last item of a list, unless the key ends in two pairs of empty brackets. Then it is lost.
-/

namespace Winnow

namespace Param

/-! ## One name -/

@[simp] theorem get?_nil (name : String) : get? name [] = none := rfl

theorem get?_cons (name : String) (c : String × Param) (cs : List (String × Param)) :
    get? name (c :: cs) = if c.1 = name then some c.2 else get? name cs := by
  unfold get?
  by_cases h : c.1 = name
  · simp [h]
  · simp [h]

/-- What is put under a name stands there, and nothing else changes. -/
theorem get?_set (name other : String) (p : Param) (cs : List (String × Param)) :
    get? other (set name p cs) = if name = other then some p else get? other cs := by
  induction cs with
  | nil => rw [set, get?_cons]
  | cons c cs ih =>
    rw [set]
    by_cases hName : c.1 = name
    · rw [if_pos (by simpa using hName), get?_cons, get?_cons, hName]
      split <;> rfl
    · rw [if_neg (by simpa using hName), get?_cons, get?_cons, ih]
      by_cases hOther : c.1 = other
      · have hDifferent : name ≠ other := fun h => hName (hOther.trans h.symm)
        rw [if_pos hOther, if_pos hOther, if_neg hDifferent]
      · rw [if_neg hOther, if_neg hOther]

/-! ## One place -/

/-- What stands at the beginning of a way after a value has come to its end. -/
def put (slot : Slot) (value : String) (path : List String) (old : Option Param) : Param :=
  match path with
  | [] => fill slot value old
  | name :: path => node (store slot value (name :: path) (children old))

/-- **One step down the way** to a place. -/
theorem store_cons (slot : Slot) (value name : String) (path : List String)
    (cs : List (String × Param)) :
    store slot value (name :: path) cs = set name (put slot value path (get? name cs)) cs := by
  cases path <;> rfl

/-- What names lead to, one after the other. -/
def follow? : List String → Option Param → Option Param
  | [], p? => p?
  | name :: path, p? => follow? path (get? name (children p?))

/-- The names of a way lead to what has come to its end. -/
theorem follow?_put (slot : Slot) (value : String) (path : List String) (old : Option Param) :
    follow? path (some (put slot value path old)) = some (fill slot value (follow? path old)) := by
  induction path generalizing old with
  | nil => rfl
  | cons name path ih =>
    rw [put, store_cons, follow?, children, get?_set, if_pos rfl, ih]
    rfl

/-- A value that is dropped makes no difference. -/
theorem store_visit (v w : String) (path : List String) (cs : List (String × Param)) :
    store .visit v path cs = store .visit w path cs := by
  induction path generalizing cs with
  | nil => rfl
  | cons name path ih =>
    rw [store_cons, store_cons]
    cases path with
    | nil => rfl
    | cons next path => rw [put, put, ih]

end Param

/-! ## The last pair -/

/-- The names on a key: its name, and its segments without the empty ones. -/
def BracketKey.names (name : String) (brackets : List String) : List String :=
  name :: brackets.filter (!·.isEmpty)

/-- What names lead to in the tree that pairs spell. -/
def Param.place? (pairs : List (String × String)) (names : List String) : Option Param :=
  follow? names (some (node (ofPairs pairs)))

section LastPair

open BracketKey

variable {pairs : List (String × String)} {name : String} {brackets : List String}

theorem Param.ofPairs_concat (hName : isName name = true)
    (hBrackets : ∀ s ∈ brackets, isPlain s = true) (v : String) :
    ofPairs (pairs ++ [(written name brackets, v)]) =
      store (ofSegments (name :: brackets)).slot v (names name brackets) (ofPairs pairs) := by
  rw [ofPairs, List.foldl_append, List.foldl_cons, List.foldl_nil, add, BracketKey.read,
    segments_written hName hBrackets, path_ofSegments]
  rfl

/-- What the names on a written key lead to after its pair, by what they led to before. -/
theorem Param.place?_concat (hName : isName name = true)
    (hBrackets : ∀ s ∈ brackets, isPlain s = true) (v : String) :
    place? (pairs ++ [(written name brackets, v)]) (names name brackets) =
      some (fill (ofSegments (name :: brackets)).slot v (place? pairs (names name brackets))) := by
  rw [place?, ofPairs_concat hName hBrackets]
  exact follow?_put _ v (names name brackets) (some (node (ofPairs pairs)))

/-- **The value of the last pair** stands at the place of its key. Let the key be a name and segments
between brackets, some of which may be empty.

If the key does not end in empty brackets, the names on it lead to the value itself. If it ends in one
pair of empty brackets, they lead to a list: the items that have been there before, and the value. But
if it ends in two pairs of empty brackets, they lead to a node, and the value makes no difference. -/
theorem last_pair_stands (pairs : List (String × String)) (name : String) (brackets : List String)
    (v : String) (hName : isName name = true) (hBrackets : ∀ s ∈ brackets, isPlain s = true) :
    (brackets.getLast? ≠ some "" →
      Param.place? (pairs ++ [(written name brackets, v)]) (names name brackets) = some (.text v)) ∧
    (∀ before, brackets = before ++ [""] → before.getLast? ≠ some "" →
      Param.place? (pairs ++ [(written name brackets, v)]) (names name brackets) =
        some (.list (Param.items (Param.place? pairs (names name brackets)) ++ [v]))) ∧
    ∀ before, brackets = before ++ ["", ""] →
      Param.place? (pairs ++ [(written name brackets, v)]) (names name brackets) =
        some (.node (Param.children (Param.place? pairs (names name brackets)))) ∧
      ∀ w, Param.ofPairs (pairs ++ [(written name brackets, w)]) =
        Param.ofPairs (pairs ++ [(written name brackets, v)]) := by
  refine ⟨?_, ?_, ?_⟩
  · intro hLast
    rw [Param.place?_concat hName hBrackets, slot_ofSegments_of_getLast? hLast]
    rfl
  · rintro before rfl hLast
    rw [Param.place?_concat hName hBrackets, slot_ofSegments_concat, if_neg hLast]
    rfl
  · rintro before rfl
    have hSlot : (ofSegments (name :: (before ++ ["", ""]))).slot = .visit := by
      rw [List.append_cons, slot_ofSegments_concat, List.getLast?_concat, if_pos rfl]
    refine ⟨?_, fun w => ?_⟩
    · rw [Param.place?_concat hName hBrackets, hSlot]
      rfl
    · rw [Param.ofPairs_concat hName hBrackets, Param.ofPairs_concat hName hBrackets, hSlot]
      exact Param.store_visit w v _ _

/-- Three pairs for one filter: a text, then two items in brackets. The text goes, and the last value
stands at the end of the list; with one more pair of brackets the list goes instead, and so does the
value. -/
theorem last_pair_stands_status :
    written "filter" ["status", ""] = "filter[status][]" ∧
    Param.place? ([("filter[status]", "a"), ("filter[status][]", "b")] ++
      [(written "filter" ["status", ""], "c")]) ["filter", "status"] = some (.list ["b", "c"]) ∧
    written "filter" ["status", "", ""] = "filter[status][][]" ∧
    Param.place? ([("filter[status]", "a"), ("filter[status][]", "b")] ++
      [(written "filter" ["status", "", ""], "c")]) ["filter", "status"] = some (.node []) := by
  have hOne := (last_pair_stands [("filter[status]", "a"), ("filter[status][]", "b")] "filter"
    ["status", ""] "c" (by decide) (by decide)).2.1 ["status"] rfl (by decide)
  have hTwo := ((last_pair_stands [("filter[status]", "a"), ("filter[status][]", "b")] "filter"
    ["status", "", ""] "c" (by decide) (by decide)).2.2 ["status"] rfl).1
  exact ⟨by decide, hOne, by decide, hTwo⟩

/-- **A value can be lost.** The key is well formed and ends in empty brackets, and there is no list
at its place: not the value, nor any trace of it. -/
theorem value_after_two_brackets_is_lost :
    isName "filter" = true ∧ (∀ s ∈ ["status", "", ""], isPlain s = true) ∧
    written "filter" ["status", "", ""] = "filter[status][][]" ∧
    (¬ ∃ items, Param.place? ([] ++ [("filter[status][][]", "active")])
      (names "filter" ["status", "", ""]) = some (.list (items ++ ["active"]))) ∧
    Param.ofPairs [("filter[status][][]", "active")] = Param.ofPairs [("filter[status][][]", "")] := by
  have hPlace : Param.place? [("filter[status][][]", "active")] (names "filter" ["status", "", ""]) =
      some (.node []) := rfl
  refine ⟨by decide, by decide, by decide, ?_, rfl⟩
  rintro ⟨items, hList⟩
  cases hPlace.symm.trans hList

end LastPair

end Winnow
