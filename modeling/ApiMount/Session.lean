/-
Sessions: a working document that is changed step by step. A session
starts with a fresh document of its store. Each step gives an answer or
a failure. A step that fails leaves the working document as it was,
unless it sets something at the top of the document: that may fail after
the change was made (`step_of_error`).

Any name may be set at the top of the document. As long as the version is
a text, the routes are entries and the extras are a table, the document
is whole; whoever sets something else takes it apart, and only loading
makes it whole again.
-/
import ApiMount.Session.Apart

namespace ApiMount.Session

/-- What a session works on. -/
inductive WorkingDocument where
  | whole (d : Document)
  | apart (p : Parts)

namespace WorkingDocument

/-- A document that stays whole with a value under a name, if it does:
the version may be any text, the routes may be emptied, and any extra may
be set. -/
def setWhole? (name : String) (value : Extra) (d : Document) :
    Option Document :=
  match Meaning.ofName name, value with
  | .version, .json (.str version) => some { d with version }
  | .routes, .json (.obj []) => some { d with paths := some [] }
  | .extra, _ => some { d with extras := d.extras.put name value }
  | .aside, _ => some d
  | _, _ => none

/-- Sets a value under a name in a document taken apart. -/
def setApart (name : String) (value : Extra) (p : Parts) :
    Except StepFailure Answer × WorkingDocument :=
  match p.set name value with
  | (.error m, after) => (.error (.misuse m), .apart after)
  | (.ok (), after) =>
    match after.extras.elements with
    | .error m => (.error (.misuse m), .apart after)
    | .ok items => (.ok (.extras items), .apart after)

/-- Sets a value under a name. -/
def set (name : String) (value : Extra) :
    WorkingDocument → Except StepFailure Answer × WorkingDocument
  | .whole d =>
    match refused? name value, setWhole? name value d with
    | some m, _ => (.error (.misuse m), .whole d)
    | none, some after =>
      (.ok (.extras (after.extras.keys.map .str)), .whole after)
    | none, none => setApart name value (.ofDocument d)
  | .apart p => setApart name value p

/-- What is done with the routes. -/
def act (a : RouteAction) :
    WorkingDocument → Except StepFailure Answer × WorkingDocument
  | .whole d =>
    match Session.act d a with
    | .error f => (.error f, .whole d)
    | .ok (answer, after) => (.ok answer, .whole after)
  | .apart p =>
    let (result, after) := p.act a
    (result, .apart after)

/-- The text, if there is one. -/
def text : WorkingDocument → Except StepFailure String
  | .whole d => (Render.textOf d).mapError .fault
  | .apart p => p.text

/-- What can be seen. -/
def view : WorkingDocument → Except StepFailure Sight
  | .whole d => .ok (.ofView d.view)
  | .apart p => p.view.mapError .misuse

end WorkingDocument

-- =============================================================== steps

/-- One step: its answer or failure, and the document after it. -/
def step (store : TemplateStore) (w : WorkingDocument) :
    Step → Except StepFailure Answer × WorkingDocument
  | .load =>
    match store.load with
    | .error f => (.error (.fault f), w)
    | .ok fresh => (.ok (.keys fresh.routeKeys), .whole fresh)
  | .serialize => (w.text.map .text, w)
  | .describe => (w.view.map .view, w)
  | .routes a => w.act a
  | .set name value => w.set name value
  | .render base names =>
    match Render.render .standard store base names with
    | .error f => (.error (.ofFailure f), w)
    | .ok (text, _) => (.ok (.text text), w)

/-- Loading gives the document that the store holds. -/
theorem after_load {store : TemplateStore} {fresh : Document}
    (hload : store.load = .ok fresh) (w : WorkingDocument) :
    (step store w .load).2 = .whole fresh := by
  simp [step, hload]

/-- Rendering leaves the document as it was. -/
theorem after_render (store : TemplateStore) (w : WorkingDocument)
    (base : String) (names : List Json) :
    (step store w (.render base names)).2 = w := by
  cases result : Render.render .standard store base names <;>
    simp [step, result]

/-- A step that fails and sets nothing leaves the document as it was. -/
theorem step_of_error {store : TemplateStore} {w : WorkingDocument}
    {s : Step} {f : StepFailure} (hs : s.sets = false)
    (h : (step store w s).1 = .error f) : (step store w s).2 = w := by
  cases s with
  | load => cases result : store.load <;> simp_all [step]
  | serialize | describe => rfl
  | set name value => simp [Step.sets] at hs
  | render base names => exact after_render store w base names
  | routes a =>
    cases w with
    | whole d =>
      cases result : Session.act d a <;>
        simp_all [step, WorkingDocument.act]
    | apart p =>
      simp only [step, WorkingDocument.act] at h ⊢
      rw [Parts.act_of_error hs h]

/-- The answers to a list of steps, and the document after them. -/
def runFrom (store : TemplateStore) (w : WorkingDocument) :
    List Step → List (Except StepFailure Answer) × WorkingDocument
  | [] => ([], w)
  | s :: rest =>
    let (answer, after) := step store w s
    let (answers, last) := runFrom store after rest
    (answer :: answers, last)

/-- The answers of a session, or the fault of its first load. -/
def run (store : TemplateStore) (steps : List Step) :
    Except Fault (List (Except StepFailure Answer)) :=
  store.load.map fun d => (runFrom store (.whole d) steps).1

end ApiMount.Session
