import Winnow.Store.Alternative
import Winnow.Store.Condition

/-!
# Winnow.Store.Extent — how large a statement may be

The store reads a statement only up to a size. The tree of its condition may have a thousand levels,
where a statement about related rows counts twice: as a part of the condition, and by the tree of
its own condition. A list of parts joined by one word leans to the left, so each part is one more
level. While the store reads a statement it keeps what it has not put together yet, at most a
hundred symbols. And it takes no more than so many parameters, nor so many keys of an order.

The sizes of the single conditions are those of the forms that `Statement` gives them.
-/

namespace Winnow

/-- The size of a condition in a statement: the levels of its tree, those of the highest tree of a
statement in it, the symbols that are kept while it is read, and its parameters. -/
structure Extent where
  height : Nat
  below : Nat
  kept : Nat
  marks : Nat

namespace Extent

/-- No condition. -/
def empty : Extent := ⟨0, 0, 0, 0⟩

/-- One condition and another one, joined by a word. -/
def join (a b : Extent) : Extent :=
  ⟨max a.height b.height + 1, max a.below b.below, max a.kept (2 + b.kept), a.marks + b.marks⟩

/-- Conditions that are joined from left to right. -/
def chain : List Extent → Extent
  | [] => empty
  | e :: es => es.foldl join e

/-- A condition between parentheses. -/
def enclosed (e : Extent) : Extent := { e with kept := max 3 (1 + e.kept) }

/-- Sizes are put together as the parts of a statement are. -/
def grouping : Grouping Extent := ⟨chain, chain, enclosed⟩

/-- The existence of a row with a condition. -/
def existence (e : Extent) : Extent :=
  ⟨e.height + 1, e.height + e.below, 2 + max 9 (5 + e.kept), e.marks⟩

/-- A comparison of two columns. -/
def tie : Extent := ⟨3, 0, 5, 0⟩

/-- A test for one of so many values. -/
def list : Nat → Extent
  | 0 => ⟨3, 2, 18, 0⟩
  | 1 => ⟨3, 0, 5, 1⟩
  | n => ⟨3, 0, 6, n⟩

/-- The negation of a test, which has parentheses of its own. -/
def negated (e : Extent) : Extent := { e with height := e.height + 1, kept := e.kept + 1 }

/-- The parameters of a test for equality. Null and booleans have forms without one. -/
def equalityMarks : Value → Nat
  | .null => 0
  | .bool _ => 0
  | _ => 1

/-- The alternatives of a search in a document. -/
def documentAlternatives (form : DocumentForm) (v : Value) : List (Alternative Extent) :=
  let marks := 1 + equalityMarks v
  match form with
  | .elements => [.comparison ⟨4, 0, 6, marks⟩, .existence ⟨4, 3, 14, marks⟩]
  | _ => [.comparison ⟨4, 0, 6, marks⟩]

mutual

/-- The sizes of the alternatives that a condition consists of. -/
def alternatives : Condition → List (Alternative Extent)
  | .isNull _ => [.comparison ⟨3, 0, 3, 0⟩]
  | .notNull _ => [.comparison ⟨3, 0, 4, 0⟩]
  | .flag .. => [.comparison ⟨3, 0, 3, 0⟩]
  | .compare .. => [.comparison ⟨3, 0, 3, 1⟩]
  | .among _ vs => [.comparison (list vs.length)]
  | .notAmong _ vs => [.comparison (list vs.length).negated]
  | .like _ _ foldCase => [.comparison (if foldCase then ⟨4, 0, 7, 1⟩ else ⟨3, 0, 3, 1⟩)]
  | .between .. => [.comparison ⟨3, 0, 5, 2⟩]
  | .documentHas _ form _ v => documentAlternatives form v
  | .any conditions => (alternativesOfAll conditions).flatten
  | .has _ _ conditions => [.existence (grouping.tied tie (alternativesOfAll conditions)).existence]

/-- The sizes of the alternatives of several conditions. -/
def alternativesOfAll : List Condition → List (List (Alternative Extent))
  | [] => []
  | c :: cs => alternatives c :: alternativesOfAll cs

end

/-- The size of the condition of a statement. -/
def ofConditions (cs : List Condition) : Extent := grouping.whole (alternativesOfAll cs)

/-! ## Bounds -/

/-- The greatest number of levels. -/
def maxLevels : Nat := 1000

/-- The greatest number of symbols that the store keeps. -/
def maxKept : Nat := 99

/-- The greatest number of parameters. -/
def maxMarks : Nat := 250000

/-- The greatest number of keys of an order. -/
def maxKeys : Nat := 2000

/-- Does the store read a statement with a condition of this size, where `outside` symbols are kept
before the condition begins and `marks` parameters come after it? -/
def isReadable (outside marks : Nat) (e : Extent) : Bool :=
  e.height + e.below ≤ maxLevels && outside + e.kept ≤ maxKept && e.marks + marks ≤ maxMarks

end Extent

end Winnow
