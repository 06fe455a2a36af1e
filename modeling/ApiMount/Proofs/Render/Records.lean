/-
What is logged of a render. First comes what the injection has to tell
(`Tells`): nothing, if parameters were injected, one record, if the
designated route is absent or a reference, and one record for each name,
if the template makes something other than a query parameter. Then comes
one record for each route that is mounted (`build_tells`).

Wherever the injection has something to tell, it has left the document
alone, so what is written is what is written without any names.
-/
import ApiMount.Proofs.Mounting
import ApiMount.Proofs.Render.Total

namespace ApiMount

open Table

-- ========================================================== no changes

namespace Document

variable {d : Document}

/-- Without names nothing is injected. -/
theorem exists_inject_nil (d : Document) (template : ParameterTemplate)
    (route : String) :
    ∃ report, d.inject template route [] = .ok (report, d) := by
  rcases d.inject_cases template route [] with
    ⟨-, h⟩ | ⟨r, -, h⟩ | ⟨slot, i, -, -, -, h⟩
  · exact ⟨_, h⟩
  · exact ⟨_, h⟩
  · have hnothing : template.buildAll [] = .ok ([], []) := rfl
    rw [hnothing] at h
    refine ⟨.done route [] [], ?_⟩
    rw [h, ← congrArg (fun after => Except.ok (_, after))
      (d.update_append_nil slot.number)]
    rfl

end Document

namespace Render

open Log

variable {d : Document} {template : ParameterTemplate}
  {store : TemplateStore} {names : List String}

-- ============================================================= records

/-- What the injection of names at the designated route logs. A mismatch
is an error, one for the whole route or one for each name, but that there
is no such route is none. -/
inductive Tells (d : Document) (template : ParameterTemplate)
    (names : List String) : List Record → Prop where
  | absent (missing : d.entry? "/graph" = none) :
    Tells d template names
      [{ level := .debug
         logger
         message := "No /graph route in template, nothing injected"
         attributes := []
         exception := none }]
  | pointing {r : Reference}
      (points : d.entry? "/graph" = some (.reference r)) :
    Tells d template names
      [{ level := .error
         logger
         message := "reference manipulation for paths not allowed"
         attributes :=
           [("error_code", .str "REFERENCE_NOT_MUTABLE"),
             ("route_key", .str "/graph"),
             ("category", .str "structure"),
             ("severity", .str "warning")]
         exception := none }]
  | injected {i : PathItem} {p : Parameter}
      (inPlace : d.entry? "/graph" = some (.item i))
      (query : p.location = .query) (makes : template.Makes p) :
    Tells d template names []
  | unfit {i : PathItem} (inPlace : d.entry? "/graph" = some (.item i))
      (other : template.Unfit ∨ names = []) :
    Tells d template names (names.map fun name =>
      { level := .error
        logger
        message := "non-query parameters not allowed"
        attributes :=
          [("error_code", .str "NON_QUERY_PARAMETER"),
            ("route_key", .str "/graph"),
            ("parameter_name", .str name),
            ("category", .str "structure")]
        exception := none })

/-- The record of a route that is mounted. -/
def mountRecord (base key : String) : Record :=
  { level := .debug
    logger := mountLogger
    message := "Rewrote path " ++ key ++ " -> " ++ (base ++ key)
    attributes := []
    exception := none }

/-- The records of a mount, one for each key. -/
theorem mountLog_eq (base : String) (keys : List String) :
    mountLog base keys = keys.map (mountRecord base) := by
  unfold mountLog mountMessages
  rw [List.map_map]
  apply List.map_congr_left
  intro key _
  simp only [Function.comp_apply, mountRecord, String.append_assoc]

-- =========================================================== injection

/-- An injection at the designated route logs what it should, and only
one that logs nothing may change the document. -/
theorem exists_inject_tells (ht : (Json.obj template).Distinct)
    (d : Document)
    (hmakes : ∀ name ∈ names, ∃ e, template.build (.str name) = .ok e) :
    ∃ report after,
      d.inject template designatedRoute (names.map .str)
          = .ok (report, after)
        ∧ Tells d template names (injectionLog report)
        ∧ after.routeKeys = d.routeKeys
        ∧ (injectionLog report ≠ [] → after = d) := by
  rcases d.inject_cases template designatedRoute (names.map .str) with
    ⟨missing, h⟩ | ⟨r, points, h⟩ | ⟨slot, i, found, -, inPlace, h⟩
  · exact ⟨_, _, h, .absent missing, rfl, fun _ => rfl⟩
  · exact ⟨_, _, h, .pointing points, rfl, fun _ => rfl⟩
  · have hkeys (fit : List Parameter) :=
      Document.routeKeys_update found (.append fit)
    -- a template that fits no name and a list without names tell alike
    have hunfit (other : template.Unfit ∨ names = [])
        (hall : template.buildAll (names.map .str)
          = .ok ([], names.map .str)) :
        ∃ report after,
          d.inject template designatedRoute (names.map .str)
              = .ok (report, after)
            ∧ Tells d template names (injectionLog report)
            ∧ after.routeKeys = d.routeKeys
            ∧ (injectionLog report ≠ [] → after = d) := by
      rw [hall] at h
      refine ⟨_, _, h, ?_, hkeys [],
        fun _ => d.update_append_nil slot.number⟩
      show Tells d template names ((names.map Json.str).map _)
      rw [List.map_map]
      exact .unfit inPlace other
    rcases template.shape_cases ht with
      ⟨p, query, makes⟩ | hother | hshapeless
    · rw [template.buildAll_of_makes query makes] at h
      exact ⟨_, _, h, .injected inPlace query makes, hkeys _,
        fun hne => absurd rfl hne⟩
    · exact hunfit (.inl hother) (template.buildAll_of_unfit hother names)
    · -- a template that makes nothing is not met: there are no names
      have hnone : names = [] := by
        apply List.eq_nil_iff_forall_not_mem.2
        intro name hname
        obtain ⟨e, he⟩ := hmakes name hname
        obtain ⟨f, hf⟩ := hshapeless name
        rw [hf] at he
        cases he
      subst hnone
      exact hunfit (.inr rfl) rfl

-- =========================================================== rendering

/-- What is built is the document after the injection, mounted. -/
theorem build_eq_ok (hload : store.load = .ok d) {values : List Json}
    {report : InjectionReport} {after : Document}
    (h : d.inject template designatedRoute values = .ok (report, after))
    (base : String) :
    build template store base values
      = .ok (after.mount base,
        injectionLog report
          ++ after.routeKeys.map (mountRecord base)) := by
  unfold build customize
  rw [hload, ← mountLog_eq]
  simp only [h, Except.mapError]

/-- What is rendered is the text of what is built. -/
theorem render_eq_ok {values : List Json} {built : Document}
    {log : List Record} {text : String} {base : String}
    (hbuild : build template store base values = .ok (built, log))
    (htext : textOf built = .ok text) :
    render template store base values = .ok (text, log) := by
  unfold render
  rw [hbuild]
  simp only [htext]

/-- A document that was loaded has a text when it is mounted, and this is
what is rendered without names. -/
theorem exists_render_nil (hload : store.load = .ok d) (base : String) :
    ∃ text, textOf (d.mount base) = .ok text
      ∧ ∀ template : ParameterTemplate, ∃ log,
        render template store base [] = .ok (text, log) := by
  have hbuild (template : ParameterTemplate) : ∃ log,
      build template store base [] = .ok (d.mount base, log) := by
    obtain ⟨report, hinject⟩ :=
      d.exists_inject_nil template designatedRoute
    exact ⟨_, build_eq_ok hload hinject base⟩
  obtain ⟨text, written, hrender⟩ := exists_render hload base []
  obtain ⟨told, hstandard⟩ := hbuild .standard
  have htext := textOf_of_render hstandard hrender
  refine ⟨text, htext, ?_⟩
  intro template
  obtain ⟨log, hbuilt⟩ := hbuild template
  exact ⟨log, render_eq_ok hbuilt htext⟩

/-- The log of a render tells what happened: what the injection has to
tell, and then one record for each route of the template, in order. Where
the injection tells anything, the text is the one that is rendered
without names. -/
theorem build_tells (ht : (Json.obj template).Distinct)
    (hload : store.load = .ok d) (base : String)
    (hmakes : ∀ name ∈ names, ∃ e, template.build (.str name) = .ok e) :
    ∃ built told,
      build template store base (names.map .str)
          = .ok (built, told ++ d.routeKeys.map (mountRecord base))
        ∧ Tells d template names told
        ∧ (told ≠ [] → ∃ text log plain,
          render template store base (names.map .str) = .ok (text, log)
            ∧ render template store base [] = .ok (text, plain)) := by
  obtain ⟨report, after, hinject, htells, hkeys, hidle⟩ :=
    exists_inject_tells ht d hmakes
  have hbuild := build_eq_ok hload hinject base
  rw [hkeys] at hbuild
  refine ⟨_, _, hbuild, htells, ?_⟩
  intro hne
  obtain ⟨text, htext, hplain⟩ := exists_render_nil hload base
  obtain ⟨plain, hplain⟩ := hplain template
  rw [hidle hne] at hbuild
  exact ⟨text, _, plain, render_eq_ok hbuild htext, hplain⟩

/-- A template whose parameter is for a header, for a name that comes
twice. -/
theorem build_tells_header :
    let template : ParameterTemplate := [("in", .str "header")]
    let store : TemplateStore := ⟨.text (Json.obj
      [("openapi", .str "3.1.0"),
        ("paths", .obj [("/b", .obj []), ("/graph", .obj [])])]).compact⟩
    let d : Document := ⟨"3.1.0", some
      [("/b", ⟨0, .item ⟨none, []⟩⟩), ("/graph", ⟨1, .item ⟨none, []⟩⟩)],
      []⟩
    (Json.obj template).Distinct ∧ store.load = .ok d
      ∧ (∀ name ∈ ["a", "a"], ∃ e, template.build (.str name) = .ok e)
      ∧ ∃ built told,
        build template store "/v1" (["a", "a"].map .str)
            = .ok (built, told ++ d.routeKeys.map (mountRecord "/v1"))
          ∧ Tells d template ["a", "a"] told
          ∧ told ≠ []
          ∧ ∃ text log plain,
            render template store "/v1" (["a", "a"].map .str)
                = .ok (text, log)
              ∧ render template store "/v1" [] = .ok (text, plain) := by
  intro template store d
  have ht : (Json.obj template).Distinct := by decide
  have hload : store.load = .ok d :=
    TemplateStore.load_compact (by decide) rfl
  have hmakes : ∀ name ∈ ["a", "a"],
      ∃ e, template.build (.str name) = .ok e := by
    intro name hname
    exact ⟨_, rfl⟩
  obtain ⟨built, told, hbuild, htells, hsame⟩ :=
    build_tells ht hload "/v1" hmakes
  have hne : told ≠ [] := by
    -- the template says `header`, so the one case without a record is out
    cases htells with
    | absent missing => exact List.cons_ne_nil _ _
    | pointing points => exact List.cons_ne_nil _ _
    | unfit inPlace other => exact List.cons_ne_nil _ _
    | @injected i p inPlace query makes =>
        have hheader : template.build (.str "a")
            = .ok (.parameter ⟨.header, "a", none, none, []⟩) := rfl
        have hmade := makes "a"
        rw [hheader] at hmade
        injection hmade with hmade
        injection hmade with hmade
        have hlocation : Location.header = p.location :=
          congrArg Parameter.location hmade
        rw [query] at hlocation
        cases hlocation
  exact ⟨ht, hload, hmakes, built, told, hbuild, htells, hne, hsame hne⟩

end Render

end ApiMount
