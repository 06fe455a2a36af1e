/-
Requests from other origins. A browser asks in advance, by a preflight,
whether it may send a request from a page of some origin. The answer
names the methods that are allowed and repeats the headers that were
asked for; the origin is named only if it is one of the allowed ones.

Every other response says that it varies with the origin, and names the
origin of the request if it is allowed.

The allowed origins are listed one by one, as settings have them. A star
would allow all of them and change every answer, so it is not listed.
-/
import ApiMount.Http.Message
import ApiMount.Text.Loose

namespace ApiMount.Http

/-- The methods that may be asked for. -/
def methods : List String :=
  ["DELETE", "GET", "HEAD", "OPTIONS", "PATCH", "POST", "PUT", "QUERY"]

/-- The origins that may call the service. None of them is the star that
stands for all. -/
structure Origins where
  allowed : List Text.LooseText
  listed : Text.loosen "*" ∉ allowed

/-- A question that is asked in advance. `privateNetwork` says that the
request would go into a private network, which no origin may do. -/
structure Preflight where
  origin : String
  method : String
  headers : Option String
  privateNetwork : Bool

/-- The question that a request asks, if it is a preflight. -/
def Preflight.ofRequest? (r : Request) : Option Preflight :=
  if r.method = "OPTIONS" then
    match r.headers.find? "origin",
        r.headers.find? "access-control-request-method" with
    | some origin, some method =>
      some { origin, method
             headers := r.headers.find? "access-control-request-headers"
             privateNetwork := (r.headers.find?
               "access-control-request-private-network").isSome }
    | _, _ => none
  else none

namespace Origins

/-- Whether an origin is one of the allowed ones. -/
def allows (o : Origins) (origin : String) : Bool :=
  o.allowed.contains (Text.loosen origin)

/-- The header that names an origin, if it is allowed. -/
def permit (o : Origins) (origin : Option String) : Headers :=
  match origin with
  | some origin =>
    if o.allows origin then
      [("access-control-allow-origin", origin)]
    else []
  | none => []

/-- What is not allowed about a question. -/
def failures (o : Origins) (p : Preflight) : List String :=
  (if o.allows p.origin then [] else ["origin"])
    ++ (if methods.contains p.method then [] else ["method"])
    ++ (if p.privateNetwork then ["private-network"] else [])

/-- The answer to a question. -/
def answer (o : Origins) (p : Preflight) : Response :=
  let body :=
    match o.failures p with
    | [] => Response.plain 200 "OK"
    | failures =>
      Response.plain 400
        ("Disallowed CORS " ++ String.intercalate ", " failures)
  body.withHeaders
    ([("access-control-allow-methods", String.intercalate ", " methods),
        ("access-control-max-age", "600"),
        ("vary", "Origin, Access-Control-Request-Method, "
          ++ "Access-Control-Request-Headers, "
          ++ "Access-Control-Request-Private-Network")]
      ++ o.permit (some p.origin)
      ++ p.headers.toList.map fun names =>
        ("access-control-allow-headers", names))

/-- A response to a request, marked with what holds for its origin. -/
def mark (o : Origins) (r : Request) (response : Response) : Response :=
  response.withHeaders
    (("vary", "Origin") :: o.permit (r.headers.find? "origin"))

end Origins

end ApiMount.Http
