import Winnow.Value.Text

/-!
# Winnow.Http.RequestId — names of requests

A caller may name a request: one to 128 letters, digits, points, underscores and dashes of ASCII,
blanks around them aside. Any other name is dropped, and the request gets a fresh one.
-/

namespace Winnow.Http.RequestId

/-- May the character stand in a name? -/
def isNameChar (c : Char) : Bool := c.isAlphanum || c == '.' || c == '_' || c == '-'

/-- The greatest length of a name. -/
def maxLength : Nat := 128

/-- The name that a caller gave, if it is one. -/
def read? (given : Value) : Option String :=
  let name := Text.trim given.displayOrEmpty
  let cs := name.toList
  if !cs.isEmpty && cs.length ≤ maxLength && cs.all isNameChar then some name else none

end Winnow.Http.RequestId
