/-
Rendering: from a template to the document of one deployment. A fresh
document is loaded, the mandatory parameters are injected at the
designated route, and every route is mounted under the deployment's
path. What keeps parameters from being injected is logged and changes
nothing else.

`customize` works on a loaded document; `render` starts from a store
and ends with a text. Both give the records that were logged, in order;
a failure comes before anything is logged. `renderNames` takes names that
may hold halves of surrogate pairs: a parameter can have such a name, but
then the document has no text.
-/
import ApiMount.Document.Mandatory
import ApiMount.Document.Mount
import ApiMount.Document.Writer
import ApiMount.Template.Store

namespace ApiMount

/-- What stops the customizing of a document. -/
inductive Failure where
  | fault (f : Fault)
  | parameter (f : ParameterFault)

namespace Render

open Log

/-- The logger of rendering. -/
def logger : String := "policy_openapi.services.render_openapi"

/-- The logger of mounting. -/
def mountLogger : String := "policy_openapi.core.rewrite_paths"

/-- The attribute that all mismatches share. -/
def mismatchCategory : String × Json :=
  ("category", .str Category.structural.word)

/-- The record of a mismatch at a route, with its own attributes behind
those that tell what and where it is. -/
def mismatchRecord (m : Mismatch) (route : String) (own : Table Json) :
    Record :=
  { level := .error
    logger
    message := m.message
    attributes :=
      [("error_code", .str m.code), ("route_key", .str route)] ++ own
    exception := none }

/-- What is logged of an injection. -/
def injectionLog : InjectionReport → List Record
  | .refused route =>
    [mismatchRecord .referenceNotMutable route
      [mismatchCategory, ("severity", .str Severity.warning.word)]]
  | .skipped route =>
    [{ level := .debug
       logger
       message := "No " ++ route ++ " route in template, nothing injected"
       attributes := []
       exception := none }]
  | .done route _ unfit =>
    unfit.map fun name =>
      mismatchRecord .nonQueryParameter route
        [("parameter_name", name), mismatchCategory]

/-- What is logged of mounting a table with the given keys. -/
def mountLog (base : String) (keys : List String) : List Record :=
  (mountMessages base keys).map fun message =>
    { level := .debug, logger := mountLogger, message, attributes := []
      exception := none }

/-- Injects and mounts; the records come in order. -/
def customize (template : ParameterTemplate) (base : String)
    (names : List Json) (d : Document) :
    Except ParameterFault (Document × List Record) :=
  match d.inject template designatedRoute names with
  | .error f => .error f
  | .ok (report, injected) =>
    .ok (injected.mount base,
      injectionLog report ++ mountLog base injected.routeKeys)

/-- The customized document of a store, with what was logged on the
way. -/
def build (template : ParameterTemplate) (store : TemplateStore)
    (base : String) (names : List Json) :
    Except Failure (Document × List Record) :=
  match store.load with
  | .error f => .error (.fault f)
  | .ok d => (customize template base names d).mapError .parameter

/-- The text of a document, if it can be written. -/
def textOf (d : Document) : Except Fault String :=
  d.text.mapError fun f => .unwritableDocument f.message

/-- The text of the customized document of a store, with what was
logged on the way. -/
def render (template : ParameterTemplate) (store : TemplateStore)
    (base : String) (names : List Json) :
    Except Failure (String × List Record) :=
  match build template store base names with
  | .error f => .error f
  | .ok (d, log) =>
    match textOf d with
    | .error f => .error (.fault f)
    | .ok text => .ok (text, log)

/-- Whether mandatory parameters find their place: the designated route
is described in place. -/
def takesParameters (d : Document) : Bool :=
  match d.entry? designatedRoute with
  | some (.item _) => true
  | _ => false

/-- The text of the customized document of a store for names that are
loose texts, with what was logged on the way. -/
def renderNames (template : ParameterTemplate) (store : TemplateStore)
    (base : String) (names : List Text.LooseText) :
    Except Failure (String × List Record) :=
  match names.findSome? WriteFault.ofText?, store.load with
  | some fault, .ok d =>
    if takesParameters d then
      .error (.fault (.unwritableDocument fault.message))
    else render template store base []
  | _, _ => render template store base (names.map (.str ∘ Text.tighten))

end Render

end ApiMount
