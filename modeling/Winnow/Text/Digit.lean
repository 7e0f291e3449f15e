/-!
# Winnow.Text.Digit — decimal digits of every script

A decimal digit is a character of the category Nd of Unicode. The digits of one script stand
together in ascending order, so the table holds the code point of each script's zero and nothing
else.
-/

namespace Winnow.Text

/-- The code points of the zeros: each begins ten consecutive digits. -/
def zeroDigits : List Nat := [
  0x30, 0x660, 0x6F0, 0x7C0, 0x966, 0x9E6, 0xA66, 0xAE6, 0xB66, 0xBE6, 0xC66, 0xCE6, 0xD66,
  0xDE6, 0xE50, 0xED0, 0xF20, 0x1040, 0x1090, 0x17E0, 0x1810, 0x1946, 0x19D0, 0x1A80, 0x1A90,
  0x1B50, 0x1BB0, 0x1C40, 0x1C50, 0xA620, 0xA8D0, 0xA900, 0xA9D0, 0xA9F0, 0xAA50, 0xABF0, 0xFF10,
  0x104A0, 0x10D30, 0x11066, 0x110F0, 0x11136, 0x111D0, 0x112F0, 0x11450, 0x114D0, 0x11650,
  0x116C0, 0x11730, 0x118E0, 0x11950, 0x11C50, 0x11D50, 0x11DA0, 0x16A60, 0x16AC0, 0x16B50,
  0x1D7CE, 0x1D7D8, 0x1D7E2, 0x1D7EC, 0x1D7F6, 0x1E140, 0x1E2F0, 0x1E950, 0x1FBF0]

/-- The value of a decimal digit of any script. -/
def digitValue? (c : Char) : Option Nat :=
  if c.toNat < 0x80 then
    if c.isDigit then some (c.toNat - 48) else none
  else
    (zeroDigits.find? fun z => z ≤ c.toNat && c.toNat < z + 10).map (c.toNat - ·)

/-- Is the character a decimal digit of some script? -/
def isDecimalDigit (c : Char) : Bool := (digitValue? c).isSome

/-- The ASCII digit that writes a number below ten. -/
def digitChar (n : Nat) : Char := Char.ofNat (48 + n % 10)

/-- The decimal digits of a natural number, without leading zeros; zero is one digit. -/
def natChars (n : Nat) : List Char := Nat.toDigits 10 n

/-- A natural number in at least `width` digits, with leading zeros. -/
def paddedNat (width n : Nat) : String :=
  let cs := natChars n
  String.ofList (List.replicate (width - cs.length) '0' ++ cs)

/-- The decimal text of an integer. -/
def intText (n : Int) : String := toString n

end Winnow.Text
