/-!
# Winnow.Store.Alternative — how the parts of a statement are put together

A condition is one alternative, or several of which one must hold: a disjunction in a disjunction is
part of it. Conditions that must all hold stand side by side, and a disjunction among them stands in
parentheses. The existence of a row stands in parentheses unless it is the only condition.

What the parts are does not matter for this. They may be pieces of text, or anything else that can
be joined and enclosed.
-/

namespace Winnow

/-- One alternative of a disjunction: a comparison, which needs no parentheses or has its own, or
the existence of a row. -/
inductive Alternative (α : Type) where
  | comparison (part : α)
  | existence (part : α)

/-- How parts are put together: one of them holds, all of them hold, or one stands in parentheses.
-/
structure Grouping (α : Type) where
  either : List α → α
  both : List α → α
  parenthesised : α → α

namespace Grouping

/-- An alternative as the only condition. -/
def bare {α : Type} : Alternative α → α
  | .comparison part => part
  | .existence part => part

/-- An alternative among others. -/
def guarded {α : Type} (g : Grouping α) : Alternative α → α
  | .comparison part => part
  | .existence part => g.parenthesised part

/-- Alternatives as the only condition. -/
def sole {α : Type} (g : Grouping α) : List (Alternative α) → α
  | [a] => bare a
  | alternatives => g.either (alternatives.map g.guarded)

/-- Alternatives as one condition of several. -/
def member {α : Type} (g : Grouping α) : List (Alternative α) → α
  | [a] => g.guarded a
  | alternatives => g.parenthesised (g.either (alternatives.map g.guarded))

/-- The whole condition of a statement. -/
def whole {α : Type} (g : Grouping α) : List (List (Alternative α)) → α
  | [alternatives] => g.sole alternatives
  | conditions => g.both (conditions.map g.member)

/-- The condition of a statement about related rows, which begins with the tie to them. -/
def tied {α : Type} (g : Grouping α) (tie : α) (conditions : List (List (Alternative α))) : α :=
  g.both (tie :: conditions.map g.member)

end Grouping

end Winnow
