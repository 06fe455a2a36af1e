/-
A step that fails leaves no trace (`run_of_failure`): the working
document is what it was, so all that follows is answered as if the step
had never been tried. This holds of every step that sets nothing at the
top of the document, also where the document was taken apart; and as
long as nothing but extras is set, it holds of every step.

`Step.Stuck` lists the steps that a document has no way to do. One name
that makes no parameter is enough to stop an injection, wherever it
stands among the others (`ParameterTemplate.exists_error_buildAll`): the
names before it have been made into parameters by then, and none of these
is in the document.
-/
import ApiMount.Proofs.Session.Actions
import ApiMount.Proofs.Session.RoundTrip

namespace ApiMount

open Table

-- ========================================================= what fails

/-- A name that makes no parameter stops the making of all. -/
theorem ParameterTemplate.exists_error_buildAll
    {template : ParameterTemplate} {names : List Json} {name : Json}
    {f : ParameterFault} (hname : name ∈ names)
    (hf : template.build name = .error f) :
    ∃ g, template.buildAll names = .error g := by
  -- at that name, or at one before it
  induction names with
  | nil => cases hname
  | cons first rest ih =>
      unfold buildAll
      cases hb : template.build first with
      | error g => exact ⟨g, rfl⟩
      | ok e =>
          have hrest : name ∈ rest := by
            rcases List.mem_cons.1 hname with rfl | hrest
            · rw [hf] at hb
              cases hb
            · exact hrest
          obtain ⟨g, hg⟩ := ih hrest
          dsimp only
          rw [hg]
          exact ⟨g, rfl⟩

/-- An injection fails when one of its names fails. -/
theorem Document.exists_error_inject {d : Document}
    {template : ParameterTemplate} {route : String} {names : List Json}
    {name : Json} {slot : Slot} {i : PathItem} {f : ParameterFault}
    (found : d.routes.get? route = some slot)
    (inPlace : slot.entry = .item i) (hname : name ∈ names)
    (hf : template.build name = .error f) :
    ∃ g, d.inject template route names = .error g := by
  obtain ⟨g, hg⟩ := template.exists_error_buildAll hname hf
  refine ⟨g, ?_⟩
  unfold inject
  rw [found]
  dsimp only
  rw [inPlace]
  dsimp only
  rw [hg]

namespace Session

variable {store : TemplateStore} {fresh d : Document}
  {w : WorkingDocument} {s : Step} {f : StepFailure}

/-- The steps that a document has no way to do: to inject where a name
makes no parameter, to look for a route that is not there, to write what
has no JSON form, and to render with names that make no parameter. -/
inductive Step.Stuck (store : TemplateStore) (d : Document) :
    Step → Prop where
  | inject {template : ParameterTemplate} {route : String}
      {names : List Json} {name : Json} {slot : Slot} {i : PathItem}
      {f : ParameterFault} (found : d.routes.get? route = some slot)
      (inPlace : slot.entry = .item i) (mem : name ∈ names)
      (unfit : template.build name = .error f) :
    Stuck store d (.routes (.inject template route names))
  | full {route : String} (absent : route ∉ d.routeKeys) :
    Stuck store d (.routes (.full route))
  | remove {route : String} (absent : route ∉ d.routeKeys) :
    Stuck store d (.routes (.remove route))
  | share {route target : String} (absent : route ∉ d.routeKeys) :
    Stuck store d (.routes (.share route target))
  | serialize {key : String} (mem : (key, Extra.unwritable) ∈ d.extras) :
    Stuck store d .serialize
  | render {base : String} {names : List Json} {name : Json}
      {loaded : Document} {slot : Slot} {i : PathItem}
      {f : ParameterFault} (load : store.load = .ok loaded)
      (found : loaded.routes.get? designatedRoute = some slot)
      (inPlace : slot.entry = .item i) (mem : name ∈ names)
      (unfit : ParameterTemplate.standard.build name = .error f) :
    Stuck store d (.render base names)

/-- Nothing answers an action on a route that is not there. -/
theorem not_acts_of_absent {a : RouteAction} {answer : Answer}
    {routes : Routes} {route : String} (absent : route ∉ d.routeKeys)
    (ha : a = .full route ∨ a = .remove route
      ∨ ∃ target, a = .share route target) :
    ¬ Acts d.routes a answer routes := by
  have hnone {slot : Slot} (found : d.routes.get? route = some slot) :
      False := absent (mem_keys_of_get?_eq_some found)
  intro hacts
  rcases ha with rfl | rfl | ⟨target, rfl⟩
  · cases hacts with
    | full found _ => exact hnone found
  · cases hacts with
    | removed found => exact hnone found
  · cases hacts with
    | shared found => exact hnone found

/-- An action that nothing answers fails. -/
theorem exists_error_act {a : RouteAction}
    (h : ∀ answer routes, ¬ Acts d.routes a answer routes) :
    ∃ f, (step store (.whole d) (.routes a)).1 = .error f := by
  show ∃ f, (WorkingDocument.act a (.whole d)).1 = .error f
  unfold WorkingDocument.act
  dsimp only
  cases hact : act d a with
  | error f => exact ⟨f, rfl⟩
  | ok pair => exact absurd (acts_of_act hact) (h _ _)

/-- A step that a document has no way to do fails. -/
theorem Step.Stuck.exists_error (h : s.Stuck store d) :
    ∃ f, (step store (.whole d) s).1 = .error f := by
  cases h with
  | inject found inPlace mem unfit =>
      obtain ⟨g, hg⟩ := Document.exists_error_inject found inPlace mem unfit
      refine exists_error_act fun answer routes hacts => ?_
      obtain ⟨after, hok⟩ := act_of_acts hacts
      unfold act at hok
      dsimp only at hok
      rw [hg] at hok
      cases hok
  | full absent =>
      exact exists_error_act fun _ _ =>
        not_acts_of_absent absent (.inl rfl)
  | remove absent =>
      exact exists_error_act fun _ _ =>
        not_acts_of_absent absent (.inr (.inl rfl))
  | share absent =>
      exact exists_error_act fun _ _ =>
        not_acts_of_absent absent (.inr (.inr ⟨_, rfl⟩))
  | serialize mem =>
      unfold step WorkingDocument.text
      dsimp only
      cases ht : Render.textOf d with
      | error g => exact ⟨_, rfl⟩
      | ok text => exact absurd ht (Document.textOf_ne_ok mem text)
  | render load found inPlace mem unfit =>
      -- rendering works on a fresh document, and fails there at the same
      -- name
      obtain ⟨g, hg⟩ := Document.exists_error_inject found inPlace mem unfit
      unfold step Render.render Render.build Render.customize
      dsimp only
      rw [load]
      dsimp only
      rw [hg]
      exact ⟨_, rfl⟩

-- ======================================================= whole documents

/-- A step that sets an extra at most. -/
def Step.SetsExtras : Step → Prop
  | .set name _ =>
    Meaning.ofName name = .extra ∨ Meaning.ofName name = .aside
  | _ => True

/-- Setting an extra of a whole document leaves it whole, and changes
nothing if it fails. -/
theorem set_whole {name : String} {value : Extra}
    (hs : (Step.set name value).SetsExtras) :
    ∃ e, (WorkingDocument.set name value (.whole d)).2 = .whole e
      ∧ ((∃ f, (WorkingDocument.set name value (.whole d)).1 = .error f)
        → e = d) := by
  have hwhole : ∃ e, WorkingDocument.setWhole? name value d = some e := by
    unfold WorkingDocument.setWhole?
    rcases hs with hs | hs
    · rw [hs]
      exact ⟨_, rfl⟩
    · rw [hs]
      exact ⟨_, rfl⟩
  obtain ⟨e, he⟩ := hwhole
  unfold WorkingDocument.set
  dsimp only
  rw [he]
  cases refused? name value with
  | some m => exact ⟨d, rfl, fun _ => rfl⟩
  | none =>
      refine ⟨e, rfl, ?_⟩
      rintro ⟨f, hf⟩
      cases hf

/-- A step that sets an extra at most leaves a whole document whole, and
changes nothing if it fails. -/
theorem step_whole (store : TemplateStore) (d : Document)
    (hs : s.SetsExtras) :
    ∃ e, (step store (.whole d) s).2 = .whole e
      ∧ ((∃ f, (step store (.whole d) s).1 = .error f) → e = d) := by
  -- only setting, loading and the actions change anything, and each
  -- changes nothing when it fails
  cases s with
  | set name value => exact set_whole hs
  | serialize | describe => exact ⟨d, rfl, fun _ => rfl⟩
  | load =>
      unfold step
      dsimp only
      cases store.load with
      | error f => exact ⟨d, rfl, fun _ => rfl⟩
      | ok e =>
          refine ⟨e, rfl, ?_⟩
          rintro ⟨f, hf⟩
          cases hf
  | render base names => exact ⟨d, after_render _ _ _ _, fun _ => rfl⟩
  | routes a =>
      unfold step WorkingDocument.act
      dsimp only
      cases act d a with
      | error f => exact ⟨d, rfl, fun _ => rfl⟩
      | ok pair =>
          refine ⟨pair.2, rfl, ?_⟩
          rintro ⟨f, hf⟩
          cases hf

/-- Steps that set extras at most leave a whole document whole, however
many there are. -/
theorem run_whole (store : TemplateStore) (d : Document)
    {steps : List Step} (hs : ∀ s ∈ steps, s.SetsExtras) :
    ∃ e, (runFrom store (.whole d) steps).2 = .whole e := by
  induction steps generalizing d with
  | nil => exact ⟨d, rfl⟩
  | cons s rest ih =>
      obtain ⟨hfirst, hrest⟩ := List.forall_mem_cons.1 hs
      obtain ⟨e, he, -⟩ := step_whole store d hfirst
      show ∃ e, (runFrom store (step store (.whole d) s).2 rest).2 = _
      rw [he]
      exact ih e hrest

-- ================================================================== runs

/-- A session in two parts. -/
theorem runFrom_append (store : TemplateStore) (w : WorkingDocument)
    (first rest : List Step) :
    (runFrom store w (first ++ rest)).1
      = (runFrom store w first).1
        ++ (runFrom store (runFrom store w first).2 rest).1 := by
  induction first generalizing w with
  | nil => rfl
  | cons s first ih =>
      exact congrArg ((step store w s).1 :: ·) (ih (step store w s).2)

/-- There is one answer for every step. -/
theorem length_runFrom (store : TemplateStore) (w : WorkingDocument)
    (steps : List Step) :
    (runFrom store w steps).1.length = steps.length := by
  induction steps generalizing w with
  | nil => rfl
  | cons s rest ih =>
      exact congrArg (· + 1) (ih (step store w s).2)

/-- A session on an accepted template starts with the document just
loaded. -/
theorem run_eq_ok (hload : store.load = .ok fresh) (steps : List Step) :
    run store steps = .ok (runFrom store (.whole fresh) steps).1 := by
  unfold run
  rw [hload]
  rfl

/-- Whatever a session has done before: a step that fails, or that the
document has no way to do, fails and leaves the document as it is, and
the session goes on as if the step had been left out. -/
theorem run_of_failure (hload : store.load = .ok fresh)
    {before : List Step}
    (hs : s.sets = false ∨ ∀ t ∈ before ++ [s], t.SetsExtras)
    (hw : (runFrom store (.whole fresh) before).2 = w)
    (hfails : (∃ f, (step store w s).1 = .error f)
      ∨ ∃ d, w = .whole d ∧ s.Stuck store d) :
    ∃ f, step store w s = (.error f, w)
      ∧ ∀ rest, ∃ answers later, answers.length = before.length
        ∧ run store (before ++ s :: rest)
          = .ok (answers ++ .error f :: later)
        ∧ run store (before ++ rest) = .ok (answers ++ later) := by
  have herror : ∃ f, (step store w s).1 = .error f := by
    rcases hfails with h | ⟨d, rfl, hstuck⟩
    · exact h
    · exact hstuck.exists_error
  -- a step that sets nothing leaves any document, and one that sets
  -- extras leaves a whole one, which it has been all along
  have hsame : (step store w s).2 = w := by
    obtain ⟨f, hf⟩ := id herror
    rcases hs with hs | hs
    · exact step_of_error hs hf
    · rw [List.forall_mem_append] at hs
      obtain ⟨e, he⟩ := run_whole store fresh hs.1
      rw [hw] at he
      subst he
      obtain ⟨after, hafter, heq⟩ :=
        step_whole store e (hs.2 s List.mem_cons_self)
      rw [hafter, heq herror]
  obtain ⟨f, hf⟩ := herror
  refine ⟨f, Prod.ext hf hsame, fun rest => ?_⟩
  -- from here on both runs go through the same documents
  refine ⟨(runFrom store (.whole fresh) before).1,
    (runFrom store w rest).1, length_runFrom _ _ _, ?_, ?_⟩
  · rw [run_eq_ok hload, runFrom_append, hw]
    show Except.ok (_ ++ (step store w s).1
      :: (runFrom store (step store w s).2 rest).1) = _
    rw [hf, hsame]
  · rw [run_eq_ok hload, runFrom_append, hw]

/-- An injection through a shared route whose second name is a number. -/
theorem run_of_failure_number :
    let store : TemplateStore := ⟨.text (Json.obj
      [("openapi", .str "3.1.0"),
        ("paths", .obj [("/graph", .obj [])])]).compact⟩
    let item : PathEntry := .item ⟨none, []⟩
    let d : Document := ⟨"3.1.0", some
      [("/graph", ⟨0, item⟩), ("/copy", ⟨0, item⟩)], []⟩
    let w : WorkingDocument := .whole d
    let s : Step := .routes (.inject .standard "/copy"
      [.str "tenant", .int 5, .str "region"])
    ∃ f, step store w s = (.error f, w)
      ∧ ∀ rest, ∃ answers later, answers.length = 1
        ∧ run store ([.routes (.share "/graph" "/copy")] ++ s :: rest)
          = .ok (answers ++ .error f :: later)
        ∧ run store ([.routes (.share "/graph" "/copy")] ++ rest)
          = .ok (answers ++ later) := by
  intro store item d w s
  let fresh : Document := ⟨"3.1.0", some [("/graph", ⟨0, item⟩)], []⟩
  have hload : store.load = .ok fresh :=
    TemplateStore.load_compact (by decide) rfl
  have hunfit : ∃ f, ParameterTemplate.standard.build (.int 5)
      = .error f := ⟨_, rfl⟩
  obtain ⟨f, hf⟩ := hunfit
  have hfound : d.routes.get? "/copy" = some ⟨0, item⟩ := rfl
  have hbefore : (runFrom store (.whole fresh)
      [.routes (.share "/graph" "/copy")]).2 = w := rfl
  exact run_of_failure hload (.inl rfl) hbefore (.inr ⟨d, rfl,
    .inject hfound rfl (List.mem_cons_of_mem _ List.mem_cons_self) hf⟩)

end Session

end ApiMount
