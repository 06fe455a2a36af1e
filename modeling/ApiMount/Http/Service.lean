/-
The service: what it answers to a request, and what it logs. A preflight
is answered first; then the request is dispatched. A fault of the
template or the document becomes a plain text with the status of the
fault. Any other failure becomes an answer that tells nothing of it, and
is raised again after that.

The settings and the source of templates are what the service depends
on. They reach only the two endpoints that ask for them (`serve`). What
is set up once, before any request, is fixed: the origins that may call
the service, and the pages about it, which answer from the request alone.
-/
import ApiMount.Http.Origins
import ApiMount.Http.Route
import ApiMount.Render
import ApiMount.Settings.Basic

namespace ApiMount.Http

open Log

/-- Where the template of a request comes from. -/
inductive TemplateSource where
  | store (s : TemplateStore)
  /-- Asking for it fails, with the given words. -/
  | broken (words : String)

/-- What the service did with a request. `raised` says that a failure
went past the answer. -/
structure Outcome where
  response : Response
  log : List Record
  raised : Bool

-- ============================================================ responses

/-- The answer of the process that is up. -/
def aliveBody : Json :=
  .obj [("status", .str "healthy"), ("service", .str "policy-openapi"),
    ("version", .str "1.0.0")]

/-- The answer when the template is a document. -/
def readyBody : Json :=
  .obj [("status", .str "ready"),
    ("checks", .obj [("template", .str "healthy")])]

/-- The answer when the template is none. -/
def notReadyBody : Json :=
  .obj [("status", .str "not_ready"),
    ("reason", .str "template_unavailable")]

/-- The answer that tells nothing of a failure. -/
def hiddenFailureBody : Json :=
  .obj [("error", .obj [("code", .str "INTERNAL_ERROR"),
    ("message", .str "An unexpected error occurred"),
    ("category", .str Category.internal.word),
    ("severity", .str Severity.critical.word)])]

/-- The answer where there is no endpoint, or not for the method. -/
def detail (status : Nat) (words : String) : Response :=
  .json status (.obj [("detail", .str words)])

/-- The answer that sends a request to another target on its host. -/
def redirection (r : Request) (t : Target) : Response :=
  { status := 307
    headers := [("content-length", "0"),
      ("location", "http://" ++ r.host ++ t.text)]
    body := "" }

-- ============================================================== records

/-- The logger of failures. -/
def failureLogger : String := "policy_openapi.api.error_handlers"

/-- The logger of readiness. -/
def healthLogger : String := "policy_openapi.api.routes.health"

/-- The record of a fault at a path. -/
def faultRecord (path : String) (f : Fault) : Record :=
  { level := .error
    logger := failureLogger
    message := "PolicyOpenAPIError: " ++ f.message
    attributes := f.attributes ++ [("path", .str path)]
    exception := none }

/-- The record of any other failure at a path. -/
def failureRecord (path words : String) : Record :=
  { level := .error
    logger := failureLogger
    message := "Unhandled exception on " ++ path ++ ": " ++ words
    attributes := []
    exception := some "Traceback (most recent call last):" }

/-- The record of a template that is no document. -/
def notReadyRecord (f : Fault) : Record :=
  { level := .warning
    logger := healthLogger
    message := "Readiness check failed: " ++ f.message
    attributes := f.attributes
    exception := none }

-- ============================================================ endpoints

/-- What an endpoint gives, or the words of a failure that it does not
handle. -/
abbrev Served := Except String (Response × List Record)

/-- Whether the template is a document. -/
def serveReadiness (store : TemplateStore) : Response × List Record :=
  match store.load with
  | .ok _ => (.json 200 readyBody, [])
  | .error f => (.json 503 notReadyBody, [notReadyRecord f])

/-- The customized document, or the fault that keeps it from being
made. -/
def serveDocument (s : Settings) (store : TemplateStore) : Served :=
  let names := s.mandatoryParams.names
  match Render.renderNames .standard store s.pathPrefix names with
  | .ok (text, log) => .ok (.jsonText 200 text, log)
  | .error (.fault f) =>
    .ok (.plain f.httpStatus.toNat f.message,
      [faultRecord Endpoint.document.path f])
  | .error (.parameter f) => .error f.message

/-- What an endpoint gives. -/
def serve (s : Settings) (source : TemplateSource) : Endpoint → Served
  | .liveness => .ok (.json 200 aliveBody, [])
  | .readiness =>
    match source with
    | .broken words => .error words
    | .store store => .ok (serveReadiness store)
  | .document =>
    match source with
    | .broken words => .error words
    | .store store => serveDocument s store

-- ============================================================== service

/-- What is set up before any request: the origins that may call the
service, and how each page about it answers. -/
structure Site where
  origins : Origins
  pages : Page → Request → Response

/-- The origins of the settings that hold where nothing is set. -/
def Origins.usual : Origins :=
  ⟨Settings.standard.corsOrigins, by decide⟩

variable (site : Site)

/-- An answer that says what holds for the request's origin. -/
def marked (r : Request) (response : Response) (log : List Record) :
    Outcome :=
  ⟨site.origins.mark r response, log, false⟩

/-- The answer to a request that is no preflight. -/
def dispatched (s : Settings) (source : TemplateSource) (r : Request) :
    Outcome :=
  match Dispatch.ofRequest r with
  | .unknown => marked site r (detail 404 "Not Found") []
  | .wrongMethod =>
    marked site r ((detail 405 "Method Not Allowed").withHeaders
      [("allow", "GET")]) []
  | .redirect t => marked site r (redirection r t) []
  | .page p => marked site r (site.pages p r) []
  | .serve e =>
    match serve s source e with
    | .ok (response, log) => marked site r response log
    | .error words =>
      ⟨.json 500 hiddenFailureBody, [failureRecord e.path words], true⟩

/-- What the service does with a request. -/
def handle (s : Settings) (source : TemplateSource) (r : Request) :
    Outcome :=
  match Preflight.ofRequest? r with
  | some p => ⟨site.origins.answer p, [], false⟩
  | none => dispatched site s source r

end ApiMount.Http
