/-!
# Winnow.Store.Like — patterns of a text search

In a pattern `%` stands for any run of characters, the empty one included, and `_` for any one
character. Every other character stands for itself, where capitals and small letters of ASCII are
equal and all other letters differ. Nothing escapes the two marks.

What a pattern accepts is defined by trying every rest of the text at every `%`, which takes time
beyond all bounds. A search goes through the pattern once instead and keeps what may be left of the
text. Main statement: both come to the same (`scan_eq_accepts`).

A text ends for the search before its first NUL, and so does a pattern.
-/

namespace Winnow.Like

/-- Are the characters equal up to the case of ASCII letters? -/
def sameLetter (a b : Char) : Bool := a.toLower == b.toLower

/-- The text itself and every text that is left when characters are dropped from its begin. -/
def suffixes : List Char → List (List Char)
  | [] => [[]]
  | c :: cs => (c :: cs) :: suffixes cs

/-- Does the whole text match the pattern? -/
def accepts : List Char → List Char → Bool
  | [], cs => cs.isEmpty
  | p :: pattern, cs =>
    if p = '%' then (suffixes cs).any (accepts pattern)
    else match cs with
      | [] => false
      | c :: rest => (p = '_' || sameLetter p c) && accepts pattern rest

/-! ## One pass -/

/-- What is left of a text after one character that `p` stands for. -/
def dropMatch? (p : Char) : List Char → Option (List Char)
  | [] => none
  | c :: rest => if p = '_' || sameLetter p c then some rest else none

/-- What may be left of a text after one more character of the pattern. The longest rest comes
first, and all others are rests of it. -/
def advance (rests : List (List Char)) (p : Char) : List (List Char) :=
  if p = '%' then (rests.head?.map suffixes).getD [] else rests.filterMap (dropMatch? p)

/-- Does the whole text match the pattern? In one pass over the pattern. -/
def scan (pattern cs : List Char) : Bool := (pattern.foldl advance [cs]).any List.isEmpty

/-- The part of a text that a search sees. -/
def visible (s : String) : List Char := s.toList.takeWhile (· != '\x00')

/-- Does a text match a pattern? -/
def test (pattern s : String) : Bool := scan (visible pattern) (visible s)

/-- The greatest length of a pattern, in bytes. -/
def maxBytes : Nat := 50000

/-- Is the pattern longer than a search takes? What no search sees of it counts, too. -/
def isTooLong (pattern : String) : Bool := maxBytes < pattern.utf8ByteSize

/-! ## What each definition does with one character -/

theorem suffixes_cons (c : Char) (cs : List Char) : suffixes (c :: cs) = (c :: cs) :: suffixes cs :=
  rfl

theorem accepts_run (pattern cs : List Char) :
    accepts ('%' :: pattern) cs = (suffixes cs).any (accepts pattern) := rfl

theorem accepts_cons_nil {p : Char} (hp : p ≠ '%') (pattern : List Char) :
    accepts (p :: pattern) [] = false := if_neg hp

theorem accepts_cons_cons {p : Char} (hp : p ≠ '%') (pattern : List Char) (c : Char)
    (cs : List Char) : accepts (p :: pattern) (c :: cs) =
      ((p = '_' || sameLetter p c) && accepts pattern cs) := if_neg hp

theorem dropMatch?_cons (p c : Char) (cs : List Char) :
    dropMatch? p (c :: cs) = if p = '_' || sameLetter p c then some cs else none := rfl

theorem advance_run (rests : List (List Char)) :
    advance rests '%' = (rests.head?.map suffixes).getD [] := rfl

theorem advance_of_ne {p : Char} (hp : p ≠ '%') (rests : List (List Char)) :
    advance rests p = rests.filterMap (dropMatch? p) := if_neg hp

/-! ## The pass accepts what the pattern accepts -/

theorem mem_suffixes_iff {s cs : List Char} : s ∈ suffixes cs ↔ s <:+ cs := by
  induction cs with
  | nil => exact List.mem_singleton.trans List.suffix_nil.symm
  | cons c cs ih => rw [suffixes_cons, List.mem_cons, ih, List.suffix_cons_iff]

theorem mem_dropMatch? {p : Char} {cs rest : List Char} (h : dropMatch? p cs = some rest) :
    ∃ c, cs = c :: rest := by
  cases cs with
  | nil => cases h
  | cons c cs =>
    rw [dropMatch?_cons, Option.ite_none_right_eq_some, Option.some.injEq] at h
    exact ⟨c, by rw [h.2]⟩

/-- Rests of one text, the longer before the shorter. -/
def AreRests (rests : List (List Char)) : Prop := rests.Pairwise fun a b => b <:+ a

theorem areRests_suffixes (cs : List Char) : AreRests (suffixes cs) := by
  induction cs with
  | nil => exact List.pairwise_singleton _ []
  | cons c cs ih =>
    refine List.pairwise_cons.2 ⟨fun s hs => ?_, ih⟩
    exact (mem_suffixes_iff.1 hs).trans (List.suffix_cons c cs)

theorem AreRests.advance {rests : List (List Char)} (h : AreRests rests) (p : Char) :
    AreRests (advance rests p) := by
  by_cases hp : p = '%'
  · subst hp
    rw [advance_run]
    cases rests with
    | nil => exact List.Pairwise.nil
    | cons longest rests => exact areRests_suffixes longest
  · rw [advance_of_ne hp]
    refine List.Pairwise.filterMap (dropMatch? p) (fun a b hab s hs t ht => ?_) h
    obtain ⟨c, rfl⟩ := mem_dropMatch? hs
    obtain ⟨d, rfl⟩ := mem_dropMatch? ht
    rcases List.suffix_cons_iff.1 hab with he | hb
    · exact (List.cons.inj he).2 ▸ List.suffix_refl _
    · exact (List.suffix_cons d t).trans hb

theorem any_advance {rests : List (List Char)} (h : AreRests rests) (p : Char)
    (pattern : List Char) :
    (advance rests p).any (accepts pattern) = rests.any (accepts (p :: pattern)) := by
  by_cases hp : p = '%'
  · subst hp
    cases rests with
    | nil => rfl
    | cons longest rests =>
      rw [Bool.eq_iff_iff]
      simp only [advance_run, List.head?_cons, Option.map_some, Option.getD_some,
        List.any_eq_true, List.mem_cons, accepts_run]
      constructor
      · rintro ⟨s, hs, ha⟩
        exact ⟨longest, .inl rfl, s, hs, ha⟩
      · rintro ⟨r, hr, s, hs, ha⟩
        refine ⟨s, ?_, ha⟩
        rcases hr with rfl | hr
        · exact hs
        · have hl := List.rel_of_pairwise_cons h hr
          exact mem_suffixes_iff.2 ((mem_suffixes_iff.1 hs).trans hl)
  · rw [advance_of_ne hp, List.any_filterMap]
    congr 1
    funext cs
    cases cs with
    | nil => exact (accepts_cons_nil hp pattern).symm
    | cons c cs =>
      rw [dropMatch?_cons, accepts_cons_cons hp]
      cases p = '_' || sameLetter p c <;> rfl

theorem any_isEmpty_foldl_advance (pattern : List Char) {rests : List (List Char)}
    (h : AreRests rests) :
    (pattern.foldl advance rests).any List.isEmpty = rests.any (accepts pattern) := by
  induction pattern generalizing rests with
  | nil => rfl
  | cons p pattern ih => rw [List.foldl_cons, ih (h.advance p), any_advance h]

theorem scan_eq_accepts (pattern cs : List Char) : scan pattern cs = accepts pattern cs := by
  rw [scan, any_isEmpty_foldl_advance pattern (List.pairwise_singleton _ cs)]
  simp

end Winnow.Like
