/-
Template stores. A store holds the text of a template, and nothing else:
each `load` parses it again, so documents loaded one after the other
share nothing. A store made from the files of the service logs what it
read.
-/
import ApiMount.Document.Reader
import ApiMount.Fault
import ApiMount.Log.Record
import ApiMount.Template.Asset

namespace ApiMount

/-- A store: the template as it is kept. -/
structure TemplateStore where
  raw : Document.Raw
  deriving BEq

namespace TemplateStore

/-- The logger of stores. -/
def logger : String := "policy_openapi.infrastructure.template_store"

/-- Parses a template afresh; what is no document is a corrupt
template. -/
def parse (raw : Document.Raw) : Except Fault Document :=
  (Document.parse raw).mapError fun r => .corruptTemplate r.text (some r)

/-- A fresh document. -/
def load (s : TemplateStore) : Except Fault Document := parse s.raw

/-- The store of the shipped template. -/
def packaged : TemplateStore := ⟨.text Template.packagedText⟩

-- ========================================================= from a file

/-- What is logged when a store has read its text. -/
def loadedRecord (asset text : String) : Log.Record :=
  { level := .info
    logger
    message :=
      "Loaded OpenAPI template " ++ asset ++ " ("
        ++ toString text.length ++ " bytes)"
    attributes := []
    exception := none }

end TemplateStore

end ApiMount
