import Winnow.Text.Split
import Winnow.Value.Text

/-!
# Winnow.Filter.Argument — lists and patterns

An argument that stands for several values is a list, or a text with commas between them. An
argument of a text search becomes a pattern that finds it anywhere; the marks of patterns in it keep
their meaning.
-/

namespace Winnow.Value

/-- The values in an argument: the items of a list, tuple or set, or the pieces between the commas
of its text. Texts are trimmed and blanks are dropped. -/
def splitList (v : Value) : List Value :=
  let items := match v.items? with
    | some xs => xs
    | none => (Text.split ',' v.display).map text
  (items.map trimmed).filter (!·.isBlank)

/-- The pattern that finds an argument anywhere in a text. -/
def likePattern (v : Value) : String := "%" ++ v.trimmed.display ++ "%"

end Winnow.Value
