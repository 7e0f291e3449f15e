import Winnow.Text.Blank
import Winnow.Text.Case

/-!
# Winnow.Text.SnakeCase — names of fields as columns spell them

A name written with humps (`createdAt`, `HTTPStatus`) becomes one with underscores (`created_at`,
`http_status`). A hump begins at an ASCII capital that follows a small letter or a digit, and at one
that follows a capital and has a small letter after it. All else is only lower-cased.
-/

namespace Winnow.Text

/-- A small letter or a digit of ASCII. -/
def isLowerOrDigit (c : Char) : Bool := c.isLower || c.isDigit

/-- Does a new word begin at `c`, between the character before it and the rest of the text? -/
def beginsWord (before c : Char) (rest : List Char) : Bool :=
  c.isUpper && (isLowerOrDigit before || (before.isUpper && (rest.head?.any Char.isLower)))

/-- Put an underscore before every character that begins a new word. -/
def markWords (before : Option Char) : List Char → List Char
  | [] => []
  | c :: rest =>
    if before.any fun b => beginsWord b c rest then '_' :: c :: markWords (some c) rest
    else c :: markWords (some c) rest

/-- The snake-case form of a list of characters: trimmed, its words marked, lower-cased. -/
def snakeChars (cs : List Char) : List Char := lowerChars (markWords none (trimChars cs))

/-- The snake-case form of a name. -/
def snakeCase (s : String) : String := String.ofList (snakeChars s.toList)

end Winnow.Text
