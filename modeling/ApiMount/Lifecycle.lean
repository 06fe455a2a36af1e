/-
The life of the service: logging is set up from the settings, the
template is tried once, and start and end are logged. A template that is
no document is reported and does not keep the service from starting; a
refused log level does.
-/
import ApiMount.Log.Setup
import ApiMount.Settings.Basic
import ApiMount.Template.Store

namespace ApiMount.Lifecycle

open Log

/-- The logger of start and end. -/
def logger : String := "policy_openapi.main"

/-- What is logged of the template that was tried. -/
def templateLog (store : TemplateStore) : List Record :=
  match store.load with
  | .ok _ => []
  | .error f =>
    [{ level := .error
       logger
       message := "OpenAPI template is invalid: " ++ f.message
       attributes := f.attributes
       exception := none }]

/-- The record of the start. -/
def startRecord (s : Settings) : Record :=
  { level := .info
    logger
    message := "Policy OpenAPI started"
    attributes := [("path_prefix", .str s.pathPrefix)]
    exception := none }

/-- The record of the end. -/
def endRecord : Record :=
  { level := .info
    logger
    message := "Policy OpenAPI shutting down"
    attributes := []
    exception := none }

/-- Starts and ends the service: the root logger afterwards, and the
records that it let through. -/
def run (store : TemplateStore) (s : Settings) (root : RootLogger) :
    Except Reserved (RootLogger × List Record) :=
  match root.setUp s.logLevel s.logFormat with
  | (_, some reserved) => .error reserved
  | (root, none) =>
    .ok (root, atLeast root.level
      (templateLog store ++ [startRecord s, endRecord]))

end ApiMount.Lifecycle
