import Winnow.Http.Preflight
import Winnow.Http.QueryString
import Winnow.Http.RequestId
import Winnow.Service.Export
import Winnow.Service.Options

/-!
# Winnow.Http.Site — resources under paths

A site mounts resources: each answers searches at its own path, and options and exports right below
it. A path with slashes at its end is answered with the way to the path without them. Answers carry
the name of the request and are not to be kept by anyone. What goes wrong through the fault of the
caller is answered with status 400, a missing serializer with 500, both with an account; any other
failure is answered with a bare 500.
-/

namespace Winnow.Http

/-- What is found at a path. -/
inductive Route where
  | health
  | search (r : Resource)
  | options (r : Resource)
  | exported (r : Resource)

/-- The resources of a site. -/
structure Site where
  resources : List Resource

namespace Site

/-- The path at which a resource is mounted. -/
def mountPath (r : Resource) : String :=
  "/" ++ String.ofList (Text.stripChars (· == '/') r.name.toList)

/-- What a resource has at a path. -/
def resourceRoute? (path : String) (r : Resource) : Option Route :=
  let base := mountPath r
  if path = base then some (.search r)
  else if path = base ++ "/options" then some (.options r)
  else if path = base ++ "/export" then some (.exported r)
  else none

/-- What a site has at a path. -/
def route? (s : Site) (path : String) : Option Route :=
  (s.resources.findSome? (resourceRoute? path)).or (if path = "/health" then some .health else none)

/-- A path without the slashes at its end. -/
def withoutSlashes (path : String) : String :=
  String.ofList (path.toList.reverse.dropWhile (· == '/')).reverse

/-- Is there something at the path without the slashes at its end? -/
def isBeforeSlashes (s : Site) (path : String) : Bool :=
  path != "/" && path.endsWith "/" && (s.route? (withoutSlashes path)).isSome

/-- The value of the last parameter of a name. -/
def lastParam? (name : String) (pairs : List (String × String)) : Option String :=
  (pairs.reverse.find? (·.1 == name)).map Prod.snd

/-- The answer of the action at a route. -/
def act (db : Database) (stamp : String) (pairs : List (String × String)) :
    Route → Except Error Response
  | .health => .ok (.json 200 [("status", .text "ok")])
  | .search r => do
    let q ← SearchRequest.ofPairs (some r.termField) pairs
    return .ofValue (← r.search db q)
  | .options r => do
    let q ← SearchRequest.ofPairs (some r.termField) pairs
    return .ofValue (← r.options db (lastParam? "label" pairs) (lastParam? "value" pairs) q)
  | .exported r => do
    let q ← SearchRequest.ofPairs (some r.termField) pairs
    return .file (r.exportName stamp) (← r.exportLines db q)

/-- The answer of a site's route before it is named; none to a request that fails without an
account. -/
def routeAnswer? (db : Database) (stamp : String) (request : Request) (route : Route) :
    Option Response :=
  if request.method != "GET" then some (.detail 405 "Method Not Allowed")
  else match act db stamp (QueryString.pairs request.query) route with
    | .ok response => some response
    | .error e => Response.ofError? e

/-- The answer to a request before it is named; none to one that fails without an account. -/
def answer? (s : Site) (db : Database) (stamp : String) (request : Request) : Option Response :=
  match Preflight.answer? Settings.allowedOrigins request with
  | some response => some response
  | none => match s.route? request.path with
    | some route => routeAnswer? db stamp request route
    | none =>
      if s.isBeforeSlashes request.path then some .redirect
      else some (.detail 404 "Not Found")

/-- The header that names a request. -/
def requestIdHeader : String := "x-request-id"

/-- The name of a request: the one the caller gave, or a fresh one. -/
def nameOf (request : Request) : RequestName :=
  match (request.header? requestIdHeader).bind fun name => RequestId.read? (.text name) with
  | some name => .given name
  | none => .fresh

/-- The answer to a request. File names begin with the stamp. -/
def respond (s : Site) (db : Database) (stamp : String) (request : Request) : Response :=
  match s.answer? db stamp request with
  | some response => response.named (nameOf request)
  | none => .failure

end Site

end Winnow.Http
