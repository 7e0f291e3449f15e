/-!
# Winnow.Error — why a request is refused

One constructor per cause. Three groups are told apart. A *client* error is the fault of whoever
wrote the request: it is answered with status 400 and a message. A *serialization* error is the
fault of a resource's declaration: status 500 and a message. All others have neither; an action that
meets one fails without an account of itself.
-/

namespace Winnow

/-- What an argument of a typed column should have been. -/
inductive Expected where
  | boolean
  | number
  | date
  | dateTime
  deriving DecidableEq

/-- The name of the expected type in a message. -/
def Expected.name : Expected → String
  | boolean => "boolean"
  | number => "number"
  | date => "date"
  | dateTime => "datetime"

/-- The cause of a refusal or of a failure. -/
inductive Error where
  | unsupportedOperator (name : String)
  | unknownColumn (model name : String)
  | unknownRelation (model name : String)
  | invalidField (key : String)
  | invalidMonth (fragment : String)
  /-- A period has no bound or more than two. -/
  | invalidPeriod (argument : String)
  | invalidDocumentFilter (column : String)
  | invalidArgument (column : String) (expected : Expected)
  | invalidUuid (column : String)
  | missingLabel
  | invalidPageSize (shown : String)
  | invalidPage (shown : String)
  | notInteger (parameter shown : String)
  /-- A row has no serializer of this name. -/
  | noSerializer (rowType name : String)
  /-- A number is too large for where it goes. -/
  | overflow
  /-- A value has the right type and no meaning there. -/
  | meaningless
  /-- A value has a type that is not taken there. -/
  | wrongType
  | malformedRequest
  /-- A condition or an ordering came after a cap. -/
  | afterCap
  /-- Null and booleans have no order. -/
  | unordered
  /-- A parameter has no form of the type that it was given. -/
  | unbindable
  /-- The store has no type for a parameter. -/
  | unsupported
  /-- Groups and scopes have neither an order nor a cap, and nothing is read from them. -/
  | notOnGroup
  /-- A value has no attribute of the name that was asked for. -/
  | noAttribute
  /-- A list has no item at the place that was asked for. -/
  | outOfPlace
  | unknownSymbol
  /-- The store has no such function. -/
  | unavailable
  | tooLarge
  /-- A text that should hold a document does not. -/
  | malformedDocument
  | malformedPath
  | patternTooLong
  deriving DecidableEq

namespace Error

/-- The message of an error that has one. -/
def message? : Error → Option String
  | unsupportedOperator name => some ("Unsupported filter operator \"" ++ name ++ "\"")
  | unknownColumn model name => some ("Unknown column \"" ++ name ++ "\" on " ++ model)
  | unknownRelation model name => some ("Unknown relation \"" ++ name ++ "\" on " ++ model)
  | invalidField key => some ("Invalid filter field \"" ++ key ++ "\"")
  | invalidMonth fragment => some ("Invalid month \"" ++ fragment ++ "\" in between filter")
  | invalidPeriod argument =>
    some ("Between filter expects one or two values, got \"" ++ argument ++ "\"")
  | invalidDocumentFilter column =>
    some ("JSON filter on \"" ++ column ++ "\" expects filter[" ++ column ++ "][json][key]=value")
  | invalidArgument column expected =>
    some ("Invalid filter value for \"" ++ column ++ "\" (" ++ expected.name ++ ")")
  | invalidUuid column => some ("Invalid UUID in filter for \"" ++ column ++ "\"")
  | missingLabel => some "\"label\" is required"
  | invalidPageSize shown => some ("perPage must be a positive integer, got " ++ shown)
  | invalidPage shown => some ("page must be a positive integer, got " ++ shown)
  | notInteger parameter shown =>
    some ("\"" ++ parameter ++ "\" must be an integer, got \"" ++ shown ++ "\"")
  | noSerializer rowType name => some (rowType ++ " has no serialization method \"" ++ name ++ "\"")
  | _ => none

/-- The status an error is answered with, if it is answered. -/
def status? : Error → Option Nat
  | noSerializer .. => some 500
  | e => if e.message?.isSome then some 400 else none

/-- Is it the fault of whoever wrote the request? -/
def isClient (e : Error) : Bool := e.status? == some 400

end Error

end Winnow
