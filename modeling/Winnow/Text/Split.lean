/-!
# Winnow.Text.Split — pieces between separators

Main statement: joining the pieces gives the text back (`joinChars_splitChars`).
-/

namespace Winnow.Text

/-- The pieces of a text between the occurrences of a separator: always one more than there are
separators. -/
def splitChars (sep : Char) : List Char → List (List Char)
  | [] => [[]]
  | c :: rest =>
    if c = sep then [] :: splitChars sep rest
    else match splitChars sep rest with
      | piece :: pieces => (c :: piece) :: pieces
      | [] => [[c]]

/-- Pieces with a separator between any two neighbours. -/
def joinChars (sep : Char) : List (List Char) → List Char
  | [] => []
  | [piece] => piece
  | piece :: next :: pieces => piece ++ sep :: joinChars sep (next :: pieces)

/-- The pieces of a text between the occurrences of a separator. -/
def split (sep : Char) (s : String) : List String := (splitChars sep s.toList).map String.ofList

theorem splitChars_ne_nil (sep : Char) (cs : List Char) : splitChars sep cs ≠ [] := by
  cases cs with
  | nil => simp [splitChars]
  | cons c rest =>
    unfold splitChars
    split
    · simp
    · split <;> simp

/-- The pieces before a separator and those after it. -/
theorem splitChars_append_cons (sep : Char) (cs rest : List Char) :
    splitChars sep (cs ++ sep :: rest) = splitChars sep cs ++ splitChars sep rest := by
  induction cs with
  | nil => simp [splitChars]
  | cons c cs ih =>
    rw [List.cons_append, splitChars, splitChars, ih]
    by_cases hSep : c = sep
    · rw [if_pos hSep, if_pos hSep, List.cons_append]
    · rw [if_neg hSep, if_neg hSep]
      cases hPieces : splitChars sep cs with
      | nil => exact absurd hPieces (splitChars_ne_nil sep cs)
      | cons piece pieces => rfl

theorem joinChars_splitChars (sep : Char) (cs : List Char) :
    joinChars sep (splitChars sep cs) = cs := by
  induction cs with
  | nil => rfl
  | cons c rest ih =>
    unfold splitChars
    cases hs : splitChars sep rest with
    | nil => exact absurd hs (splitChars_ne_nil sep rest)
    | cons piece pieces =>
      rw [hs] at ih
      split
      · next h => subst h; simp [joinChars, ih]
      · cases pieces with
        | nil => simpa [joinChars] using ih
        | cons next more => simpa [joinChars] using ih

/-- Replace every occurrence of `old`, left to right and without overlaps, by `new`. An empty `old`
occurs nowhere. -/
def replaceChars (old new : List Char) (cs : List Char) : List Char :=
  go cs cs.length
where
  /-- `fuel` bounds the characters still to be read. -/
  go : List Char → Nat → List Char
    | [], _ => []
    | cs, 0 => cs
    | c :: rest, fuel + 1 =>
      if !old.isEmpty && old.isPrefixOf (c :: rest) then
        new ++ go ((c :: rest).drop old.length) fuel
      else c :: go rest fuel

end Winnow.Text
