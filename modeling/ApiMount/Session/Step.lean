/-
The steps of a session, what they answer, and what stops them. Of the
steps those that work on the route table are told apart
(`RouteAction`): they look at nothing else of a document.
-/
import ApiMount.Document.View
import ApiMount.Misuse
import ApiMount.Render

namespace ApiMount.Session

/-- What is done with the route table. -/
inductive RouteAction where
  | inject (template : ParameterTemplate) (route : String)
      (names : List Json)
  | mount (base : String)
  /-- One entry with every field, defaults included. -/
  | full (route : String)
  | remove (route : String)
  | clear
  /-- Puts the entry of one route under another key too. -/
  | share (route target : String)

/-- Whether an action sets the routes anew. -/
def RouteAction.sets : RouteAction → Bool
  | .mount _ => true
  | _ => false

/-- One step of a session. -/
inductive Step where
  | load
  | serialize
  | describe
  | routes (a : RouteAction)
  /-- Sets what a name means at the top of the document. -/
  | set (name : String) (value : Extra)
  /-- Renders from the store; the working document has no part in it. -/
  | render (base : String) (names : List Json)

/-- Whether a step sets something at the top of the document. -/
def Step.sets : Step → Bool
  | .routes a => a.sets
  | .set _ _ => true
  | _ => false

/-- What can be seen of a working document: its version may be anything,
and so may what goes for the keys of its extras. -/
structure Sight where
  version : Json
  paths : Table EntryView
  extras : List Json
  ownPaths : Bool

/-- What can be seen of a document. -/
def Sight.ofView (v : DocumentView) : Sight :=
  { version := .str v.version
    paths := v.paths
    extras := v.extras.map .str
    ownPaths := v.ownPaths }

/-- What a step answers. -/
inductive Answer where
  | keys (ks : List String)
  /-- What goes for the keys of the extras. -/
  | extras (items : List Json)
  | text (t : String)
  | report (r : InjectionReport)
  | view (v : Sight)

/-- What stops a step. -/
inductive StepFailure where
  | fault (f : Fault)
  | parameter (f : ParameterFault)
  /-- The route is not in the table. -/
  | unknownRoute (route : String)
  /-- The entry that was asked for cannot be written. -/
  | unwritableEntry (f : WriteFault)
  /-- A part of the document is used for what it cannot do. -/
  | misuse (m : Misuse)

/-- A failure to render, as a failure of a step. -/
def StepFailure.ofFailure : Failure → StepFailure
  | .fault f => .fault f
  | .parameter f => .parameter f

end ApiMount.Session
