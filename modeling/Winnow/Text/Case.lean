import Winnow.Text.Case.Table

/-!
# Winnow.Text.Case — lower case

The full lower-case mapping of Unicode: one character to one, but for the dotted capital I, which
becomes two, and the capital sigma, whose small letter depends on its place in the word.
-/

namespace Winnow.Text

open Case (Run lowerRuns ignorableRanges casedRanges)

/-- Is the code point in one of the ranges? -/
def inRanges (rs : List (Nat × Nat)) (n : Nat) : Bool := rs.any fun r => r.1 ≤ n && n ≤ r.2

/-- Is the code point one of the capitals of the run? -/
def Case.Run.covers (r : Run) (n : Nat) : Bool :=
  r.first ≤ n && n ≤ r.last && (n - r.first) % r.step == 0

/-- The small letter of a capital of the run. -/
def Case.Run.apply (r : Run) (n : Nat) : Nat := r.target + (n - r.first)

/-- The simple lower case of a character: itself unless it is a capital. -/
def lowerChar (c : Char) : Char :=
  if c.toNat < 0x80 then
    if c.isUpper then Char.ofNat (c.toNat + 32) else c
  else
    match lowerRuns.find? (·.covers c.toNat) with
    | some r => Char.ofNat (r.apply c.toNat)
    | none => c

/-- Has the character case, seen from the end of a word? -/
def isCased (c : Char) : Bool := inRanges casedRanges c.toNat

/-- Is the character looked through when the end of a word is sought? -/
def isCaseIgnorable (c : Char) : Bool := inRanges ignorableRanges c.toNat

/-- Does the nearest character that is not looked through have case? -/
def meetsCased (cs : List Char) : Bool :=
  match cs.dropWhile isCaseIgnorable with
  | c :: _ => isCased c
  | [] => false

/-- Lower case of a text whose part before, in reverse order, is `before`. A capital sigma becomes
the final small sigma iff it ends a word: a letter stands before it and none after it. -/
def lowerAfter (before : List Char) : List Char → List Char
  | [] => []
  | c :: rest =>
    let here :=
      if c == 'Σ' then
        if meetsCased before && !meetsCased rest then ['ς'] else ['σ']
      else if c == 'İ' then ['i', Char.ofNat 0x307]
      else [lowerChar c]
    here ++ lowerAfter (c :: before) rest

/-- The lower case of a list of characters. -/
def lowerChars (cs : List Char) : List Char := lowerAfter [] cs

/-- The lower case of a text. -/
def lower (s : String) : String := String.ofList (lowerChars s.toList)

end Winnow.Text
