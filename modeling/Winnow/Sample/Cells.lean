import Winnow.Sample.Models

/-!
# Winnow.Sample.Cells — cells by their meaning

Short names for the cells of the sample rows.
-/

namespace Winnow.Sample

/-- A text. -/
def text (s : String) : Cell := .value (.text s)

/-- An integer. -/
def int (n : Int) : Cell := .value (.int n)

/-- An amount, in hundredths. -/
def amount (hundredths : Nat) : Cell := .value (.decimal (.finite false hundredths (-2)))

/-- A double with a short decimal form: `± digits · 10 ^ exponent`. -/
def real (negative : Bool) (digits : Nat) (exponent : Int) : Cell :=
  .value (.double (.ofDecimal negative digits exponent))

/-- A boolean. -/
def flag (b : Bool) : Cell := .value (.bool b)

/-- A day. -/
def day (year month day : Nat) : Cell := .value (.date ((Date.of? year month day).getD default))

/-- A point of time. -/
def moment (year month day hour minute second micro : Nat) : Cell :=
  let time := (TimeOfDay.of? hour minute second micro).getD default
  .value (.dateTime ⟨(Date.of? year month day).getD default, time, none⟩)

/-- An identifier: eight times one hexadecimal digit, two fixed groups, and the decimal digits of a
number. -/
def serial (digit last : Nat) : Cell :=
  let first := List.replicate 8 (Nat.digitChar digit)
  let rest := Text.paddedNat 12 last
  .value (.uuid ((Uuid.read? (first ++ "000040008000".toList ++ rest.toList)).getD default))

/-- A state of a ticket by its name. -/
def state (name : String) : Cell :=
  match ticketState.all.find? (·.name == name) with
  | some m => .value (.member m)
  | none => .null

/-- A document with these members. -/
def doc (members : List (String × Json)) : Cell := .document (.object members)

/-- The cells of a category or of a customer. -/
def named (key : Int) (name : String) (externalId : Cell) : Row :=
  ⟨key, [("name", text name), ("external_id", externalId)]⟩

end Winnow.Sample
