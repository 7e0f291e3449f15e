import Winnow.Number.Numeral
import Winnow.Text.Quoted
import Winnow.Text.Split

/-!
# Winnow.Uuid — universally unique identifiers

An identifier is a number of 128 bits. It is written as 32 hexadecimal digits, in five groups
between dashes or without them. Its reader is lenient: braces, dashes and the marks of a URN are
dropped, and what remains need only be 32 characters that spell a number in base sixteen.

Its bits are divided into six parts: three of a time stamp, two of a clock and the node. Some bits
of the parts tell which layout the identifier has, and which version of it.
-/

namespace Winnow

/-- A universally unique identifier, as a number of 128 bits. -/
structure Uuid where
  number : Nat
  inRange : number < Number.pow2 128
  deriving DecidableEq

namespace Uuid

instance : Inhabited Uuid := ⟨⟨0, by decide⟩⟩

/-- The 32 hexadecimal digits. -/
def hexChars (u : Uuid) : List Char := Text.hexDigits 32 u.number

/-- The 32 hexadecimal digits, as a text. This is the stored form. -/
def hex (u : Uuid) : String := String.ofList u.hexChars

/-- The five groups of digits with dashes between them. -/
def text (u : Uuid) : String :=
  let cs := u.hexChars
  String.ofList (cs.take 8 ++ '-' :: (cs.drop 8).take 4 ++ '-' :: (cs.drop 12).take 4 ++
    '-' :: (cs.drop 16).take 4 ++ '-' :: cs.drop 20)

/-- The identifier with this number, if it has 128 bits. -/
def ofNumber? (n : Int) : Option Uuid :=
  if h : 0 ≤ n ∧ n.toNat < Number.pow2 128 then some ⟨n.toNat, h.2⟩ else none

/-- The URN of an identifier. -/
def urn (u : Uuid) : String := "urn:uuid:" ++ u.text

/-! ## Parts -/

/-- So many of its bits as a number, the lowest of them at place `low`. -/
def bits (u : Uuid) (low width : Nat) : Nat := u.number / Number.pow2 low % Number.pow2 width

/-- The low part of the time stamp. -/
def timeLow (u : Uuid) : Nat := u.bits 96 32

/-- The middle part of the time stamp. -/
def timeMid (u : Uuid) : Nat := u.bits 80 16

/-- The high part of the time stamp, with the version in front. -/
def timeHigh (u : Uuid) : Nat := u.bits 64 16

/-- The high part of the clock, with the variant in front. -/
def clockHigh (u : Uuid) : Nat := u.bits 56 8

/-- The low part of the clock. -/
def clockLow (u : Uuid) : Nat := u.bits 48 8

/-- The node. -/
def node (u : Uuid) : Nat := u.bits 0 48

/-- The six parts. -/
def parts (u : Uuid) : List Nat :=
  [u.timeLow, u.timeMid, u.timeHigh, u.clockHigh, u.clockLow, u.node]

/-- The time stamp, 60 bits. -/
def time (u : Uuid) : Nat :=
  (u.bits 64 12 * Number.pow2 16 + u.timeMid) * Number.pow2 32 + u.timeLow

/-- The clock, 14 bits. -/
def clock (u : Uuid) : Nat := u.bits 48 14

/-- The layout of an identifier. -/
inductive Variant where
  | ncs
  | standard
  | microsoft
  | future
  deriving DecidableEq

/-- What is said of a layout. -/
def Variant.text : Variant → String
  | ncs => "reserved for NCS compatibility"
  | standard => "specified in RFC 4122"
  | microsoft => "reserved for Microsoft compatibility"
  | future => "reserved for future definition"

/-- The layout, which the number of leading ones of the clock tells. -/
def variant (u : Uuid) : Variant :=
  if u.bits 63 1 = 0 then .ncs
  else if u.bits 62 1 = 0 then .standard
  else if u.bits 61 1 = 0 then .microsoft
  else .future

/-- The version, which only the standard layout has. -/
def version? (u : Uuid) : Option Nat := if u.variant = .standard then some (u.bits 76 4) else none

/-! ## Reading -/

/-- Drop the marks of a URN wherever they stand, braces at the ends and all dashes. -/
def bareChars (cs : List Char) : List Char :=
  let cs := Text.replaceChars "uuid:".toList [] (Text.replaceChars "urn:".toList [] cs)
  (Text.stripChars (fun c => c == '\x7b' || c == '\x7d') cs).filter (· != '-')

/-- The identifier a text spells. -/
def read? (cs : List Char) : Option Uuid :=
  let cs := bareChars cs
  if cs.length = 32 then (Number.readHex? cs).bind ofNumber? else none

end Uuid

end Winnow
