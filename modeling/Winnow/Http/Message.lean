import Winnow.Error
import Winnow.Number.Numeral
import Winnow.Value

/-!
# Winnow.Http.Message — requests and answers

A request has a method, a path, an encoded query and headers, whose names are read in any case. An
answer has a status and a content, and a few headers.
-/

namespace Winnow.Http

/-- A request, with the encoded text of its query and the names and values of its headers. -/
structure Request where
  method : String
  path : String
  query : String
  headers : List (String × String)

/-- The value of the first header of a name, which is given in small letters. -/
def Request.header? (r : Request) (name : String) : Option String :=
  (r.headers.find? fun h => String.ofList (Number.foldAscii h.1.toList) == name).map Prod.snd

/-- The name of a request in its answer: the caller gave it, or it was made for this request. -/
inductive RequestName where
  | given (name : String)
  | fresh
  deriving DecidableEq

/-- What an answer says. -/
inductive Body where
  | json (v : Value)
  | text (s : String)

/-- An answer. The headers that may be left out tell the type of the content, the name of the
request, who may keep the content and how it is to be saved. -/
structure Response where
  status : Nat
  contentType? : Option String
  requestName? : Option RequestName
  cacheControl? : Option String
  disposition? : Option String
  body : Body

namespace Response

/-- An answer in JSON. -/
def json (status : Nat) (entries : List (String × Value)) : Response :=
  ⟨status, some "application/json", none, none, none,
    .json (.mapping (entries.map fun e => (.text e.1, e.2)))⟩

/-- An answer in plain text. -/
def plain (status : Nat) (text : String) : Response :=
  ⟨status, some "text/plain; charset=utf-8", none, none, none, .text text⟩

/-- The answer that sends the caller to another path. It has no content. -/
def redirect : Response := ⟨307, none, none, none, none, .text ""⟩

/-- The bare answer to a failure. -/
def failure : Response := plain 500 "Internal Server Error"

/-- The answer that names the request and is not to be kept. -/
def named (r : Response) (name : RequestName) : Response :=
  { r with requestName? := some name, cacheControl? := some "no-store" }

/-- The account of an error, if it has one. -/
def ofError? (e : Error) : Option Response :=
  match e.message?, e.status? with
  | some message, some status =>
    let verdict := if e.isClient then "fail" else "error"
    some (json status [("status", .text verdict), ("message", .text message)])
  | _, _ => none

/-- A detail that says why there is no answer. -/
def detail (status : Nat) (text : String) : Response := json status [("detail", .text text)]

/-- The answer of an action. -/
def ofValue (v : Value) : Response :=
  ⟨200, some "application/json", none, none, none, .json v⟩

/-- A file of lines. -/
def file (name : String) (lines : List String) : Response :=
  ⟨200, some "text/csv; charset=utf-8", none, none,
    some ("attachment; filename=\"" ++ name ++ "\""), .text (String.join lines)⟩

end Response

end Winnow.Http
