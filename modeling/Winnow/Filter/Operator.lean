import Winnow.Text.Case
import Winnow.Text.Blank

/-!
# Winnow.Filter.Operator — how a field is compared

The fourteen operators of a filter, each with its wire name. Wire names are read trimmed and in any
case.
-/

namespace Winnow

/-- A filter operator. -/
inductive Operator where
  | equal
  | notEqual
  | less
  | lessEqual
  | greater
  | greaterEqual
  | among
  | notAmong
  | like
  | notNull
  | between
  | greaterOrNull
  | lessOrNull
  | json
  deriving DecidableEq, Inhabited

namespace Operator

/-- All operators. -/
def all : List Operator :=
  [equal, notEqual, less, lessEqual, greater, greaterEqual, among, notAmong, like, notNull, between,
    greaterOrNull, lessOrNull, json]

/-- The name of an operator in a request. -/
def wireName : Operator → String
  | equal => "eq"
  | notEqual => "neq"
  | less => "lt"
  | lessEqual => "lte"
  | greater => "gt"
  | greaterEqual => "gte"
  | among => "in"
  | notAmong => "nin"
  | like => "like"
  | notNull => "nn"
  | between => "btw"
  | greaterOrNull => "gtn"
  | lessOrNull => "ltn"
  | json => "json"

/-- The name of an operator where it is shown as a member of its enumeration. -/
def memberName : Operator → String
  | equal => "EQUAL"
  | notEqual => "NOT_EQUAL"
  | less => "LESS_THAN"
  | lessEqual => "LESS_THAN_EQUAL"
  | greater => "GREATER_THAN"
  | greaterEqual => "GREATER_THAN_EQUAL"
  | among => "IN"
  | notAmong => "NOT_IN"
  | like => "LIKE"
  | notNull => "NOT_NULL"
  | between => "BETWEEN"
  | greaterOrNull => "GREATER_THAN_OR_NULL"
  | lessOrNull => "LESS_THAN_OR_NULL"
  | json => "JSON"

/-- The operator with a wire name. -/
def ofWireName? (name : String) : Option Operator := all.find? fun op => op.wireName == name

/-- The operator that a text names: trimmed, in any case. -/
def read? (s : String) : Option Operator := ofWireName? (Text.lower (Text.trim s))

end Operator

end Winnow
