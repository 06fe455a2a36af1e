/-
The faults of the service. Each has a code, a category, a severity and
the status of the answer that reports it. Two of them are raised: the
template is no document, and a document has no text. Anything else is a
general fault whose parts the caller chooses.
-/
import ApiMount.Problem

namespace ApiMount

/-- How grave a fault is. -/
inductive Severity where
  | info
  | warning
  | error
  | critical
  deriving DecidableEq, Repr

/-- The word for a severity. -/
def Severity.word : Severity → String
  | .info => "info"
  | .warning => "warning"
  | .error => "error"
  | .critical => "critical"

/-- Every severity, rising. -/
def Severity.every : List Severity := [.info, .warning, .error, .critical]

/-- What a fault is about. -/
inductive Category where
  | template
  | serialization
  | structural
  | internal
  deriving DecidableEq, Repr

/-- The word for a category. -/
def Category.word : Category → String
  | .template => "template"
  | .serialization => "serialization"
  | .structural => "structure"
  | .internal => "internal"

/-- Every category. -/
def Category.every : List Category :=
  [.template, .serialization, .structural, .internal]

/-- What a log record shows of a fault. -/
def faultAttributes (code : Json) (category : Category)
    (severity : Severity) : Table Json :=
  [("error_code", code), ("category", .str category.word),
    ("severity", .str severity.word)]

/-- Which fault is raised. -/
inductive FaultKind where
  | corruptTemplate
  | unwritableDocument
  deriving DecidableEq, Repr

/-- A fault that is raised. `cause` is the rejection behind it, if there
is one. -/
structure Fault where
  kind : FaultKind
  message : String
  code : String
  category : Category
  severity : Severity
  httpStatus : Int
  cause : Option Rejection

namespace Fault

/-- The template is no document. -/
def corruptTemplate (reason : String) (cause : Option Rejection) : Fault :=
  { kind := .corruptTemplate
    message := "Could not deserialize to OpenAPI object: " ++ reason
    code := "TEMPLATE_CORRUPTION"
    category := .template
    severity := .critical
    httpStatus := 500
    cause }

/-- The document has no text. -/
def unwritableDocument (reason : String) : Fault :=
  { kind := .unwritableDocument
    message := "Could not serialize OpenAPI object: " ++ reason
    code := "SERIALIZATION_FAILED"
    category := .serialization
    severity := .critical
    httpStatus := 500
    cause := none }

/-- What a log record shows of a fault. -/
def attributes (f : Fault) : Table Json :=
  faultAttributes (.str f.code) f.category f.severity

end Fault

/-- A fault whose parts the caller chooses. Nothing checks that the words
and the code are texts, or that the status is a number. -/
structure GeneralFault where
  message : Json
  code : Json
  category : Category
  severity : Severity
  httpStatus : Json

namespace GeneralFault

/-- The words for a general fault. -/
def text (f : GeneralFault) : String := f.message.plain

/-- What a log record shows of a general fault. -/
def attributes (f : GeneralFault) : Table Json :=
  faultAttributes f.code f.category f.severity

end GeneralFault

end ApiMount
