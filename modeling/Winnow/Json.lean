import Winnow.Number.Digits
import Winnow.Text.Quoted

/-!
# Winnow.Json — documents

A document is a tree of objects and arrays over null, booleans, numbers and texts. Its text holds
ASCII only: other characters are written as `\u` with the four hexadecimal digits of each of their
UTF-16 units.
-/

namespace Winnow

/-- A document. The members of an object keep their order. -/
inductive Json where
  | null
  | bool (b : Bool)
  | int (n : Int)
  | double (x : Binary64)
  | text (s : String)
  | array (items : List Json)
  | object (members : List (String × Json))
  deriving Inhabited

namespace Json

/-- A UTF-16 unit as an escape. -/
def escapedUnit (n : Nat) : List Char := '\\' :: 'u' :: Text.hexDigits 4 n

/-- One character inside the quotes of a document text. -/
def escapedChar (c : Char) : List Char :=
  let n := c.toNat
  if c == '\x22' || c == '\\' then ['\\', c]
  else if c == '\n' then ['\\', 'n']
  else if c == '\r' then ['\\', 'r']
  else if c == '\t' then ['\\', 't']
  else if n = 8 then ['\\', 'b']
  else if n = 12 then ['\\', 'f']
  else if 32 ≤ n && n < 127 then [c]
  else if n < 0x10000 then escapedUnit n
  else escapedUnit (0xD800 + (n - 0x10000) / 0x400) ++ escapedUnit (0xDC00 + (n - 0x10000) % 0x400)

/-- A text as it stands inside the quotes of a document text. -/
def escaped (cs : List Char) : List Char := cs.flatMap escapedChar

/-- A text between quotation marks. -/
def quote (s : String) : String := String.ofList ('\x22' :: escaped s.toList ++ ['\x22'])

/-- The written form of a double in a document. -/
def doubleText : Binary64 → String
  | .nan => "NaN"
  | .infinite neg => if neg then "-Infinity" else "Infinity"
  | x => x.text

/-- The marks that a document text puts between items and between a label and its value. -/
structure Marks where
  comma : String
  colon : String

/-- The marks of stored documents: with a space after each. -/
def spaced : Marks := ⟨", ", ": "⟩

/-- The marks of compact texts: without spaces. -/
def compact : Marks := ⟨",", ":"⟩

mutual

/-- The text of a document. -/
def write (m : Marks) : Json → String
  | null => "null"
  | bool b => if b then "true" else "false"
  | int n => Text.intText n
  | double x => doubleText x
  | text s => quote s
  | array items => "[" ++ m.comma.intercalate (writeItems m items) ++ "]"
  | object members => "\x7b" ++ m.comma.intercalate (writeMembers m members) ++ "\x7d"

/-- The texts of the items of an array. -/
def writeItems (m : Marks) : List Json → List String
  | [] => []
  | item :: items => write m item :: writeItems m items

/-- The texts of the members of an object. -/
def writeMembers (m : Marks) : List (String × Json) → List String
  | [] => []
  | (label, value) :: members => (quote label ++ m.colon ++ write m value) :: writeMembers m members

end

/-- Is it an array or an object? -/
def isContainer : Json → Bool
  | array _ => true
  | object _ => true
  | _ => false

/-- What a document consists of one level down: the items of an array, the values of an object, and
for all else the document itself. -/
def elements : Json → List Json
  | array items => items
  | object members => members.map Prod.snd
  | doc => [doc]

end Json

end Winnow
