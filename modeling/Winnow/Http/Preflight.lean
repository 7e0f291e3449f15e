import Winnow.Http.Message

/-!
# Winnow.Http.Preflight — questions before a request

A page of another origin asks first whether it may send a request with a certain method. It may if
its origin is one of the allowed ones and the method one of those in use. The answer comes before
any route is looked for.
-/

namespace Winnow.Http.Preflight

/-- The methods in use. -/
def methods : List String := ["DELETE", "GET", "HEAD", "OPTIONS", "PATCH", "POST", "PUT"]

/-- The header that tells the origin of the page. -/
def originHeader : String := "origin"

/-- The header that tells the method asked for. -/
def methodHeader : String := "access-control-request-method"

/-- What is refused of an origin and a method. -/
def refused (origins : List String) (origin method : String) : List String :=
  (if origins.contains origin then [] else ["origin"]) ++
    (if methods.contains method then [] else ["method"])

/-- The verdict on what is refused. -/
def verdict (refused : List String) : Response :=
  if refused.isEmpty then .plain 200 "OK"
  else .plain 400 ("Disallowed CORS " ++ ", ".intercalate refused)

/-- The answer to a question of this kind; none to any other request. -/
def answer? (origins : List String) (r : Request) : Option Response :=
  if r.method != "OPTIONS" then none
  else match r.header? originHeader, r.header? methodHeader with
    | some origin, some method => some (verdict (refused origins origin method))
    | _, _ => none

end Winnow.Http.Preflight
