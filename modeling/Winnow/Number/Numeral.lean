import Winnow.Text.Blank
import Winnow.Text.Digit
import Winnow.Number.Binary64

/-!
# Winnow.Number.Numeral — numbers in text

Integers and doubles as requests spell them. Digits of every script count; blanks around a numeral
do not; single underscores may stand between digits. Integers of more than 4300 digits are refused.
-/

namespace Winnow.Number

open Winnow.Text (digitValue? isBlank isAsciiBlank stripChars)

/-- Does a reader of numbers skip the character at the ends of a text? All blanks are skipped but
the four separators of ASCII. -/
def isSkipped (c : Char) : Bool := isAsciiBlank c || (0x80 ≤ c.toNat && isBlank c)

/-- Drop what a reader of numbers skips at both ends. -/
def skipBlanks (cs : List Char) : List Char := stripChars isSkipped cs

/-- Split off a sign; `true` stands for minus. -/
def takeSign : List Char → Bool × List Char
  | '-' :: rest => (true, rest)
  | '+' :: rest => (false, rest)
  | cs => (false, cs)

/-- The value of a run of digits in which single underscores may stand between digits. The flag says
whether a digit stands right before. -/
def readGrouped (digit? : Char → Option Nat) (base : Nat) : Nat → Bool → List Char → Option Nat
  | acc, afterDigit, [] => if afterDigit then some acc else none
  | acc, afterDigit, c :: rest =>
    if c == '_' then
      if afterDigit then readGrouped digit? base acc false rest else none
    else match digit? c with
      | some d => readGrouped digit? base (acc * base + d) true rest
      | none => none

/-- The greatest number of digits of an integer in text. -/
def maxDigits : Nat := 4300

/-- The integer a text spells. -/
def readInt? (cs : List Char) : Option Int :=
  let (negative, body) := takeSign (skipBlanks cs)
  if maxDigits < (body.filter (· != '_')).length then none
  else (readGrouped digitValue? 10 0 false body).map fun n => if negative then -(n : Int) else n

/-- The value of a hexadecimal digit; decimal digits of every script are digits here, too. -/
def hexValue? (c : Char) : Option Nat :=
  let n := c.toNat
  if 97 ≤ n && n ≤ 102 then some (n - 87)
  else if 65 ≤ n && n ≤ 70 then some (n - 55)
  else digitValue? c

/-- Drop `0x` or `0X`, and one underscore after it. -/
def dropHexMark : List Char → List Char
  | '0' :: x :: rest =>
    if x == 'x' || x == 'X' then
      match rest with
      | '_' :: more => more
      | more => more
    else '0' :: x :: rest
  | cs => cs

/-- The integer a text spells in base sixteen. -/
def readHex? (cs : List Char) : Option Int :=
  let (negative, body) := takeSign (skipBlanks cs)
  (readGrouped hexValue? 16 0 false (dropHexMark body)).map fun n =>
    if negative then -(n : Int) else n

/-- A decimal digit of any script as the ASCII digit of the same value; other characters unchanged.
-/
def plainDigit (c : Char) : Char :=
  match digitValue? c with
  | some d => Text.digitChar d
  | none => c

/-- Does every underscore stand between two digits? -/
def underscoresGroup : Option Char → List Char → Bool
  | before, [] => before != some '_'
  | before, c :: rest =>
    (if c == '_' then before.any Char.isDigit
     else before != some '_' || c.isDigit) && underscoresGroup (some c) rest

/-- The value of ASCII digits. -/
def digitsValue (cs : List Char) : Nat := cs.foldl (fun n c => n * 10 + (c.toNat - 48)) 0

/-- A number with a fraction and an exponent as it is written: `± coefficient · 10 ^ exponent`,
where all digits before the exponent are read as one number. -/
structure Real where
  negative : Bool
  coefficient : Nat
  exponent : Int
  deriving DecidableEq

/-- The exponent part of a numeral: nothing, or `e` with an integer in ASCII digits. -/
def readExponent? : List Char → Option Int
  | [] => some 0
  | e :: rest =>
    if e == 'e' || e == 'E' then
      let (negative, ds) := takeSign rest
      if ds.isEmpty || !ds.all Char.isDigit then none
      else some (if negative then -(digitsValue ds : Int) else digitsValue ds)
    else none

/-- The number that digits with at most one point and an exponent spell, after the sign. -/
def readReal? (negative : Bool) (cs : List Char) : Option Real :=
  let whole := cs.takeWhile Char.isDigit
  let rest := cs.dropWhile Char.isDigit
  let (fraction, rest) := match rest with
    | '.' :: more => (more.takeWhile Char.isDigit, more.dropWhile Char.isDigit)
    | _ => ([], rest)
  if whole.isEmpty && fraction.isEmpty then none
  else (readExponent? rest).map fun e =>
    ⟨negative, digitsValue (whole ++ fraction), e - fraction.length⟩

/-- A list of characters with the capitals of ASCII made small. -/
def foldAscii (cs : List Char) : List Char := cs.map Char.toLower

/-- The double a text spells: a numeral, or `inf`, `infinity`, `nan` in any case. -/
def readDouble? (cs : List Char) : Option Binary64 :=
  let cs := (skipBlanks cs).map plainDigit
  if !underscoresGroup none cs then none
  else
    let (negative, body) := takeSign (cs.filter (· != '_'))
    let word := String.ofList (foldAscii body)
    if word == "inf" || word == "infinity" then some (.infinite negative)
    else if word == "nan" then some .nan
    else (readReal? negative body).map fun r => .ofDecimal r.negative r.coefficient r.exponent

end Winnow.Number
