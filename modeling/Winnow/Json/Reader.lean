import Winnow.Json
import Winnow.Number.Numeral

/-!
# Winnow.Json.Reader — documents in text

Reads the text of a document: null, booleans, numbers, texts, arrays and objects, with blanks
between them. Numbers have no leading zeros, and a fraction or an exponent has digits; texts have no
control characters. Nothing may follow the document but blanks.
-/

namespace Winnow.Json.Reader

/-- Is the character a blank between the parts of a document? -/
def isSpace (c : Char) : Bool := c == ' ' || c == '\t' || c == '\n' || c == '\r'

/-- Drop the blanks. -/
def skip (cs : List Char) : List Char := cs.dropWhile isSpace

/-! ## Texts -/

/-- The unit that four hexadecimal digits spell. -/
def unit? (ds : List Char) : Option Nat :=
  if ds.length = 4 && ds.all (fun c => c.toNat < 0x80 && (Number.hexValue? c).isSome) then
    some (ds.foldl (fun n c => n * 16 + (Number.hexValue? c).getD 0) 0)
  else none

/-- The character that a backslash and a letter stand for. -/
def shortEscape? : Char → Option Char
  | '\x22' => some '\x22'
  | '\\' => some '\\'
  | '/' => some '/'
  | 'b' => some '\x08'
  | 'f' => some '\x0c'
  | 'n' => some '\n'
  | 'r' => some '\r'
  | 't' => some '\t'
  | _ => none

/-- The character of a pair of units: of the first alone, unless both together are one. -/
def joined? (high low : Nat) : Option Char :=
  if 0xD800 ≤ high && high < 0xDC00 && 0xDC00 ≤ low && low < 0xE000 then
    some (Char.ofNat (0x10000 + (high - 0xD800) * 0x400 + (low - 0xDC00)))
  else none

/-- The characters of a text after its opening quotation mark. A unit that is no character by itself
becomes the replacement character. -/
def chars? : Nat → List Char → Option (List Char × List Char)
  | 0, _ => none
  | _ + 1, [] => none
  | fuel + 1, '\\' :: 'u' :: rest => do
    let high ← unit? (rest.take 4)
    let more := rest.drop 4
    let pair? := match more with
      | '\\' :: 'u' :: next => (unit? (next.take 4)).bind (joined? high)
      | _ => none
    let (c, more) := match pair? with
      | some c => (c, more.drop 6)
      | none => (if 0xD800 ≤ high && high < 0xE000 then '\ufffd' else Char.ofNat high, more)
    let (cs, rest) ← chars? fuel more
    return (c :: cs, rest)
  | fuel + 1, '\\' :: e :: rest => do
    let c ← shortEscape? e
    let (cs, rest) ← chars? fuel rest
    return (c :: cs, rest)
  | fuel + 1, c :: rest =>
    if c == '\x22' then some ([], rest)
    else if c.toNat < 32 || c == '\\' then none
    else do
      let (cs, rest) ← chars? fuel rest
      return (c :: cs, rest)

/-- A text between quotation marks. -/
def text? : List Char → Option (String × List Char)
  | '\x22' :: cs => (chars? cs.length cs).map fun r => (String.ofList r.1, r.2)
  | _ => none

/-! ## Numbers -/

/-- One or more digits. -/
def digits? (cs : List Char) : Option (List Char × List Char) :=
  match cs.takeWhile Char.isDigit with
  | [] => none
  | ds => some (ds, cs.dropWhile Char.isDigit)

/-- The digits of the whole part, where a zero in front is all there is. -/
def whole? (cs : List Char) : Option (List Char × List Char) := do
  let (ds, rest) ← digits? cs
  if ds.head? = some '0' && ds.length > 1 then none else return (ds, rest)

/-- The digits of the fraction, if there is one. -/
def fraction? : List Char → Option (List Char × List Char)
  | '.' :: cs => digits? cs
  | cs => some ([], cs)

/-- The exponent, if there is one. -/
def exponent? : List Char → Option (Option Int × List Char)
  | [] => some (none, [])
  | e :: cs =>
    if e == 'e' || e == 'E' then do
      let (negative, cs) := Number.takeSign cs
      let (ds, rest) ← digits? cs
      let n := Number.digitsValue ds
      return (some (if negative then -(n : Int) else n), rest)
    else some (none, e :: cs)

/-- A number: an integer unless it has a fraction or an exponent. -/
def number? (cs : List Char) : Option (Json × List Char) := do
  let (negative, body) := match cs with
    | '-' :: rest => (true, rest)
    | cs => (false, cs)
  let (ds, rest) ← whole? body
  let (fraction, rest) ← fraction? rest
  let (power?, rest) ← exponent? rest
  if fraction.isEmpty && power?.isNone then
    let n := Number.digitsValue ds
    return (.int (if negative then -(n : Int) else n), rest)
  else
    let power := power?.getD 0 - fraction.length
    return (.double (.ofDecimal negative (Number.digitsValue (ds ++ fraction)) power), rest)

/-! ## Documents -/

/-- The word at the begin of a text. -/
def word? (word : String) (doc : Json) (cs : List Char) : Option (Json × List Char) :=
  if word.toList.isPrefixOf cs then some (doc, cs.drop word.length) else none

mutual

/-- A document, read with `fuel` for the number of its parts. -/
def value? : Nat → List Char → Option (Json × List Char)
  | 0, _ => none
  | fuel + 1, cs => match skip cs with
    | '\x5b' :: rest => match skip rest with
      | ']' :: rest => some (.array [], rest)
      | rest => (items? fuel rest).map fun r => (.array r.1, r.2)
    | '\x7b' :: rest => match skip rest with
      | '\x7d' :: rest => some (.object [], rest)
      | rest => (members? fuel rest).map fun r => (.object r.1, r.2)
    | '\x22' :: rest => (text? ('\x22' :: rest)).map fun r => (.text r.1, r.2)
    | 'n' :: rest => word? "null" .null ('n' :: rest)
    | 't' :: rest => word? "true" (.bool true) ('t' :: rest)
    | 'f' :: rest => word? "false" (.bool false) ('f' :: rest)
    | cs => number? cs

/-- The items of an array up to its closing bracket. -/
def items? : Nat → List Char → Option (List Json × List Char)
  | 0, _ => none
  | fuel + 1, cs => do
    let (item, rest) ← value? fuel cs
    match skip rest with
    | ']' :: rest => return ([item], rest)
    | ',' :: rest =>
      let (items, rest) ← items? fuel rest
      return (item :: items, rest)
    | _ => none

/-- The members of an object up to its closing brace. -/
def members? : Nat → List Char → Option ((List (String × Json)) × List Char)
  | 0, _ => none
  | fuel + 1, cs => do
    let (label, rest) ← text? (skip cs)
    match skip rest with
    | ':' :: rest =>
      let (doc, rest) ← value? fuel rest
      match skip rest with
      | '\x7d' :: rest => return ([(label, doc)], rest)
      | ',' :: rest =>
        let (members, rest) ← members? fuel rest
        return ((label, doc) :: members, rest)
      | _ => none
    | _ => none

end

end Reader

/-- The document that a text spells. Each of its parts takes at least one character. -/
def read? (s : String) : Option Json :=
  let cs := s.toList
  match Reader.value? (cs.length + 1) cs with
  | some (doc, rest) => if (Reader.skip rest).isEmpty then some doc else none
  | none => none

end Winnow.Json
