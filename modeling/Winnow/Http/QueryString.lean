import Winnow.Text.Split
import Winnow.Text.Utf8

/-!
# Winnow.Http.QueryString — the parameters of a request in text

Pairs stand between ampersands, and key and value on the two sides of the first equals sign; a pair
without one has an empty value, and an empty piece is no pair. A plus sign is a blank. A percent
sign with two hexadecimal digits is a byte, and the bytes are read as UTF-8; any other percent sign
stands for itself.
-/

namespace Winnow.Http.QueryString

/-- The value of a hexadecimal digit. -/
def hexValue? (c : Char) : Option Nat :=
  if c.isDigit then some (c.toNat - 48)
  else if 'a' ≤ c && c ≤ 'f' then some (c.toNat - 87)
  else if 'A' ≤ c && c ≤ 'F' then some (c.toNat - 55)
  else none

/-- The bytes that an encoded text stands for. -/
def bytes : List Char → List Nat
  | [] => []
  | '%' :: a :: b :: rest =>
    match hexValue? a, hexValue? b with
    | some x, some y => (x * 16 + y) :: bytes rest
    | _, _ => 0x25 :: bytes (a :: b :: rest)
  | '+' :: rest => 0x20 :: bytes rest
  | c :: rest => Text.Utf8.encodeChar c ++ bytes rest

/-- The text that an encoded text stands for. -/
def decoded (cs : List Char) : String := String.ofList (Text.Utf8.decode (bytes cs))

/-- The pair that a piece spells, if there is anything in the piece. -/
def pair? (piece : List Char) : Option (String × String) :=
  if piece.isEmpty then none
  else some (decoded (piece.takeWhile (· != '=')), decoded ((piece.dropWhile (· != '=')).drop 1))

/-- The pairs of a query string. -/
def pairs (query : String) : List (String × String) :=
  (Text.splitChars '&' query.toList).filterMap pair?

end Winnow.Http.QueryString
