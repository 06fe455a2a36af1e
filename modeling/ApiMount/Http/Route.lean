/-
Where a request is dispatched. There are three endpoints, each with one
path, and all of them answer `GET` alone. Beside them there are the pages
that describe the service itself; they answer in their own way to every
method. One line feed after the path of an endpoint or a page is
overlooked. A path that would name one of them with a slash more at its
end, or with none, is redirected there, whatever the method. Dispatching
looks at nothing but the request.
-/
import ApiMount.Http.Message
import ApiMount.Http.Target

namespace ApiMount.Http

/-- The endpoints. -/
inductive Endpoint where
  /-- The process is up. -/
  | liveness
  /-- The template is a document. -/
  | readiness
  /-- The customized document. -/
  | document
  deriving DecidableEq, Repr

/-- The path of an endpoint. -/
def Endpoint.path : Endpoint → String
  | .liveness => "/api/v1/health/"
  | .readiness => "/api/v1/health/ready"
  | .document => "/openapi"

/-- The pages about the service. -/
inductive Page where
  /-- The description of the endpoints, for programs. -/
  | description
  /-- The same for people. -/
  | explorer
  /-- Where people come back to after they have signed in. -/
  | signedIn
  /-- The same for people who only read. -/
  | manual
  deriving DecidableEq, Repr

/-- The path of a page. -/
def Page.path : Page → String
  | .description => "/openapi.json"
  | .explorer => "/docs"
  | .signedIn => "/docs/oauth2-redirect"
  | .manual => "/redoc"

/-- What a path can name. -/
inductive Route where
  | endpoint (e : Endpoint)
  | page (p : Page)
  deriving DecidableEq, Repr

/-- Every route. -/
def Route.every : List Route :=
  [Page.description, .explorer, .signedIn, .manual].map .page
    ++ [Endpoint.liveness, .readiness, .document].map .endpoint

/-- The path of a route. -/
def Route.path : Route → String
  | .endpoint e => e.path
  | .page p => p.path

/-- Whether a path names a route. -/
def Route.isAt (r : Route) (path : List Char) : Bool :=
  path == r.path.toList || path == r.path.toList ++ ['\n']

/-- The route that a path names. -/
def Route.at? (path : List Char) : Option Route :=
  Route.every.find? (·.isAt path)

/-- A path without the slashes at its end if it has any, else with one;
none for the root. -/
def otherSlash? (path : List Char) : Option (List Char) :=
  if path = ['/'] then none
  else if path.getLast? = some '/' then
    some (path.reverse.dropWhile (· == '/')).reverse
  else some (path ++ ['/'])

/-- What becomes of a request. -/
inductive Dispatch where
  | serve (e : Endpoint)
  | page (p : Page)
  | wrongMethod
  | redirect (t : Target)
  | unknown
  deriving DecidableEq, Repr

/-- Dispatches a request. -/
def Dispatch.ofRequest (r : Request) : Dispatch :=
  let target := Target.ofText r.target
  match Route.at? target.path with
  | some (.page p) => .page p
  | some (.endpoint e) =>
    if r.method = "GET" then .serve e else .wrongMethod
  | none =>
    match otherSlash? target.path with
    | none => .unknown
    | some path =>
      if (Route.at? path).isSome then .redirect { target with path }
      else .unknown

end ApiMount.Http
