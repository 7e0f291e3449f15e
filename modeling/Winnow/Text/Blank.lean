/-!
# Winnow.Text.Blank — blank characters and trimming

A request says nothing in many ways, and most of them are blanks. The set here is that of the white
space of Unicode together with the four separators U+001C to U+001F; the zero-width characters
(U+200B, U+FEFF) and the Mongolian vowel separator (U+180E) are not in it.

A text is trimmed by dropping its blanks from both ends, never those inside it.
-/

namespace Winnow.Text

/-- Is the character one that trimming removes? -/
def isBlank (c : Char) : Bool :=
  let n := c.toNat
  (9 ≤ n && n ≤ 13) || (28 ≤ n && n ≤ 32) || n == 0x85 || n == 0xA0 || n == 0x1680
    || (0x2000 ≤ n && n ≤ 0x200A) || n == 0x2028 || n == 0x2029 || n == 0x202F || n == 0x205F
    || n == 0x3000

/-- Is the character one of the four separators of ASCII? -/
def isSeparator (c : Char) : Bool := 28 ≤ c.toNat && c.toNat ≤ 31

/-- The six blanks of ASCII that every old reader of numbers skips: U+0009 to U+000D and the space.
-/
def isAsciiBlank (c : Char) : Bool :=
  let n := c.toNat
  (9 ≤ n && n ≤ 13) || n == 32

/-- Drop the characters that satisfy `p` from both ends. -/
def stripChars (p : Char → Bool) (cs : List Char) : List Char :=
  ((cs.dropWhile p).reverse.dropWhile p).reverse

/-- Drop the blanks from both ends. -/
def trimChars (cs : List Char) : List Char := stripChars isBlank cs

/-- Drop the blanks from both ends of a text. -/
def trim (s : String) : String := String.ofList (trimChars s.toList)

/-- Does the text hold nothing but blanks? The empty text does. -/
def isAllBlank (s : String) : Bool := s.toList.all isBlank

@[simp] theorem toList_trim (s : String) : (trim s).toList = trimChars s.toList := by
  simp [trim]

end Winnow.Text
