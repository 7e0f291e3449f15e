import Winnow.Value.Text

/-!
# Winnow.Csv — lines of a table in text

A line holds the fields of a record with commas between them and ends in a line feed. A field is
quoted if a comma, a quotation mark or a line feed is in it; quotation marks in it are doubled. A
record of one empty field is a pair of quotation marks, so that it differs from a record without
fields.
-/

namespace Winnow.Csv

/-- Must a field with this character be quoted? -/
def needsQuotes (c : Char) : Bool := c == ',' || c == '\x22' || c == '\n'

/-- A field between quotation marks. -/
def quoteField (cs : List Char) : List Char :=
  '\x22' :: cs.flatMap (fun c => if c == '\x22' then [c, c] else [c]) ++ ['\x22']

/-- A field as it stands in a line. -/
def field (cs : List Char) : List Char := if cs.any needsQuotes then quoteField cs else cs

/-- The fields of a line with commas between them. -/
def joinFields : List (List Char) → List Char
  | [] => []
  | [f] => f
  | f :: g :: fs => f ++ ',' :: joinFields (g :: fs)

/-- The line of a record. -/
def lineChars : List (List Char) → List Char
  | [[]] => ['\x22', '\x22', '\n']
  | fields => joinFields (fields.map field) ++ ['\n']

/-- The text of a value in a record: null is empty, and what counts as text is that text. -/
def cellText : Value → String
  | .null => ""
  | v => v.asText?.getD v.display

/-- The line of a record of values. -/
def line (values : List Value) : String :=
  String.ofList (lineChars (values.map fun v => (cellText v).toList))

end Winnow.Csv
