/-
Requests and responses. A request is a method, a target and headers; a
response is a status, headers and a body. Every body is a text, and its
length is counted in bytes.

Names of headers are compared by their small forms; of several headers
with one name the first counts.
-/
import ApiMount.Json.Printer
import ApiMount.Text.Casing
import ApiMount.Text.Basic

namespace ApiMount.Http

/-- Headers, in order. -/
abbrev Headers := List (String × String)

/-- The value of a header whose name is given in its small form. -/
def Headers.find? (headers : Headers) (name : String) : Option String :=
  (List.find? (fun header => Text.lower header.1 == name) headers).map
    Prod.snd

/-- A request to a host. The method is told by its exact letters. -/
structure Request where
  host : String
  method : String
  target : String
  headers : Headers

/-- A response. -/
structure Response where
  status : Nat
  headers : Headers
  body : String
  deriving DecidableEq, Repr

namespace Response

/-- A response with a body of the given type. -/
def ofBody (status : Nat) (contentType body : String) : Response :=
  { status
    headers := [("content-length", toString (Text.byteCount body.toList)),
      ("content-type", contentType)]
    body }

/-- A response with a plain text. -/
def plain (status : Nat) (body : String) : Response :=
  ofBody status "text/plain; charset=utf-8" body

/-- A response with a JSON text. -/
def jsonText (status : Nat) (body : String) : Response :=
  ofBody status "application/json" body

/-- A response with a JSON value in compact form. -/
def json (status : Nat) (v : Json) : Response := jsonText status v.compact

/-- A response with further headers. -/
def withHeaders (r : Response) (headers : Headers) : Response :=
  { r with headers := r.headers ++ headers }

end Response

end ApiMount.Http
