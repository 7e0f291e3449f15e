/-!
# Winnow.Text.Utf8 — bytes as text

Bytes are read as UTF-8. Where they are not, each longest part that could have begun a character
becomes one replacement character (U+FFFD), so that no byte is silently lost.
-/

namespace Winnow.Text.Utf8

/-- The replacement character. -/
def replacement : Char := Char.ofNat 0xFFFD

/-- A character that has begun: what it consists of so far, how many bytes are to come, and the
range of the next. -/
structure Begun where
  bits : Nat
  missing : Nat
  low : Nat
  high : Nat

/-- The character that a first byte begins, if a first byte it is and more are to come. -/
def begin? (b : Nat) : Option Begun :=
  if 0xC2 ≤ b && b ≤ 0xDF then some ⟨b - 0xC0, 1, 0x80, 0xBF⟩
  else if b = 0xE0 then some ⟨0, 2, 0xA0, 0xBF⟩
  else if b = 0xED then some ⟨0xD, 2, 0x80, 0x9F⟩
  else if 0xE1 ≤ b && b ≤ 0xEF then some ⟨b - 0xE0, 2, 0x80, 0xBF⟩
  else if b = 0xF0 then some ⟨0, 3, 0x90, 0xBF⟩
  else if 0xF1 ≤ b && b ≤ 0xF3 then some ⟨b - 0xF0, 3, 0x80, 0xBF⟩
  else if b = 0xF4 then some ⟨4, 3, 0x80, 0x8F⟩
  else none

/-- What a byte yields where no character has begun. -/
def first (b : Nat) : List Char × Option Begun :=
  if b < 0x80 then ([Char.ofNat b], none)
  else match begin? b with
    | some s => ([], some s)
    | none => ([replacement], none)

/-- What a byte yields. -/
def step (state : Option Begun) (b : Nat) : List Char × Option Begun :=
  match state with
  | none => first b
  | some s =>
    if s.low ≤ b && b ≤ s.high then
      let bits := s.bits * 64 + (b - 0x80)
      if s.missing ≤ 1 then ([Char.ofNat bits], none)
      else ([], some ⟨bits, s.missing - 1, 0x80, 0xBF⟩)
    else
      let (cs, state) := first b
      (replacement :: cs, state)

/-- The characters that bytes spell, where a character may have begun before them. -/
def decodeFrom : Option Begun → List Nat → List Char
  | none, [] => []
  | some _, [] => [replacement]
  | state, b :: bs =>
    let (cs, state) := step state b
    cs ++ decodeFrom state bs

/-- The characters that bytes spell. -/
def decode (bytes : List Nat) : List Char := decodeFrom none bytes

/-- The bytes of a character. -/
def encodeChar (c : Char) : List Nat := (String.utf8EncodeChar c).map UInt8.toNat

end Winnow.Text.Utf8
