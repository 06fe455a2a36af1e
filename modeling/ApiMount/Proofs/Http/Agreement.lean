/-
The service judges a template in three places: when it starts, when it is
asked whether it is ready, and when it is asked for the document. They
agree on every template (`verdicts_agree`). One that is accepted is rendered,
whatever the path and the names are, because rendering cannot fail after
that (`Render.exists_renderNames`); one that is rejected is reported with
the same words in all three places.

A plain request is answered from the settings and the store alone
(`handle_plain`), so it does not matter what the service was asked
before.
-/
import ApiMount.Http.Service
import ApiMount.Lifecycle
import ApiMount.Proofs.Render.Total

namespace ApiMount

-- =============================================================== levels

namespace Log

/-- The usual names of levels that let records of errors through. -/
def usualLevels : List String := ["DEBUG", "INFO", "WARNING", "ERROR"]

/-- A usual level can be set, and no error falls below it. -/
theorem exists_levelOf {text : String}
    (h : Text.upper text ∈ usualLevels) :
    ∃ level, levelOf text = .ok level ∧ level ≤ Level.error := by
  unfold levelOf
  generalize Text.upper text = name at h
  simp only [usualLevels, List.mem_cons, List.not_mem_nil, or_false] at h
  rcases h with rfl | rfl | rfl | rfl
  · exact ⟨.debug, rfl, by decide⟩
  · exact ⟨.info, rfl, by decide⟩
  · exact ⟨.warning, rfl, by decide⟩
  · exact ⟨.error, rfl, by decide⟩

/-- The records of errors. -/
def errors (log : List Record) : List Record :=
  log.filter fun r => r.level == .error

theorem errors_append (first rest : List Record) :
    errors (first ++ rest) = errors first ++ errors rest :=
  List.filter_append first rest

/-- A threshold that lets errors through lets all of them through. -/
theorem errors_atLeast {level : Level} (h : level ≤ Level.error)
    (log : List Record) : errors (atLeast level log) = errors log := by
  unfold errors atLeast
  rw [List.filter_filter]
  refine List.filter_congr fun r _ => ?_
  by_cases hr : r.level = Level.error
  · rw [beq_iff_eq.2 hr, Bool.true_and, decide_eq_true_eq, hr]
    exact h
  · rw [beq_eq_false_iff_ne.2 hr, Bool.false_and]

end Log

open Log

-- ============================================================ lifecycle

namespace Lifecycle

variable {s : Settings}

/-- With a usual level the service starts and ends, and the only errors
that it logs are those of the template. -/
theorem run_eq_ok (hlevel : Text.upper s.logLevel ∈ usualLevels)
    (store : TemplateStore) (root : RootLogger) :
    ∃ after log, run store s root = .ok (after, log)
      ∧ errors log = templateLog store := by
  obtain ⟨level, hlevel, herror⟩ := exists_levelOf hlevel
  refine ⟨⟨level, root.handlers ++ [LineForm.ofName s.logFormat]⟩,
    atLeast level (templateLog store ++ [startRecord s, endRecord]),
    ?_, ?_⟩
  · unfold run RootLogger.setUp
    rw [hlevel]
  · have htemplate : errors (templateLog store) = templateLog store := by
      unfold templateLog
      cases store.load <;> rfl
    rw [errors_atLeast herror, errors_append, htemplate]
    exact List.append_nil _

end Lifecycle

-- =============================================================== visits

namespace Http

/-- A plain request for an endpoint, with the store in which it finds its
template. It has no query, and comes from no other origin. -/
structure Visit where
  store : TemplateStore
  endpoint : Endpoint
  request : Request
  method : request.method = "GET"
  target : request.target = endpoint.path
  noOrigin : request.headers.find? "origin" = none

/-- What is done with a plain request. -/
def answer (s : Settings) (store : TemplateStore) (e : Endpoint) :
    Outcome :=
  match serve s (.store store) e with
  | .ok (response, log) =>
    ⟨response.withHeaders [("vary", "Origin")], log, false⟩
  | .error words =>
    ⟨.json 500 hiddenFailureBody, [failureRecord e.path words], true⟩

/-- A path of an endpoint, as it stands, is dispatched there. -/
theorem Route.at?_path (e : Endpoint) :
    Route.at? (Target.ofText e.path).path = some (.endpoint e) := by
  cases e <;> decide

/-- Of a plain request nothing counts but the endpoint. -/
theorem handle_plain (site : Site) (s : Settings) (v : Visit) :
    handle site s (.store v.store) v.request
      = answer s v.store v.endpoint := by
  -- a visit asks with GET and names no origin, so nothing stands between
  -- it and the endpoint
  have hpreflight : Preflight.ofRequest? v.request = none := by
    unfold Preflight.ofRequest?
    rw [v.method, if_neg (by decide)]
  have hdispatch : Dispatch.ofRequest v.request = .serve v.endpoint := by
    unfold Dispatch.ofRequest
    rw [v.target]
    dsimp only
    rw [Route.at?_path]
    exact if_pos v.method
  unfold handle
  rw [hpreflight]
  dsimp only
  unfold dispatched
  rw [hdispatch]
  unfold answer
  dsimp only
  cases serve s (.store v.store) v.endpoint with
  | error words => rfl
  | ok served =>
      obtain ⟨response, log⟩ := served
      dsimp only
      unfold marked Origins.mark
      rw [v.noOrigin]
      rfl

-- ============================================================= verdicts

/-- An answer with the given status, type and body, after which nothing
is raised. -/
structure Outcome.Says (o : Outcome) (status : Nat)
    (contentType body : String) : Prop where
  response : o.response = (Response.ofBody status contentType
    body).withHeaders [("vary", "Origin")]
  handled : o.raised = false

/-- What is done with a template that is a document. -/
structure Accepted (s : Settings) (store : TemplateStore) : Prop where
  document : ∃ text log,
    Render.renderNames .standard store s.pathPrefix
      s.mandatoryParams.names = .ok (text, log)
    ∧ (answer s store .document).Says 200 "application/json" text
  ready : (answer s store .readiness).Says 200 "application/json"
    readyBody.compact
  started : ∀ root, ∃ after log,
    Lifecycle.run store s root = .ok (after, log) ∧ errors log = []

/-- What is done with a template that is no document, where `words` tell
why. -/
structure Rejected (s : Settings) (store : TemplateStore)
    (words : String) : Prop where
  document : (answer s store .document).Says 500
    "text/plain; charset=utf-8" words
  notReady : (answer s store .readiness).Says 503 "application/json"
    notReadyBody.compact
  warned : (answer s store .readiness).log.map Record.message
    = ["Readiness check failed: " ++ words]
  started : ∀ root, ∃ after log,
    Lifecycle.run store s root = .ok (after, log)
    ∧ (errors log).map Record.message
      = ["OpenAPI template is invalid: " ++ words]

variable {s : Settings} {store : TemplateStore}

/-- What is rendered is what whoever asks for the document gets. -/
theorem says_of_renderNames {text : String} {log : List Record}
    (h : Render.renderNames .standard store s.pathPrefix
      s.mandatoryParams.names = .ok (text, log)) :
    (answer s store .document).Says 200 "application/json" text := by
  unfold answer serve serveDocument
  dsimp only
  rw [h]
  exact ⟨rfl, rfl⟩

/-- A template that loads is accepted at every visit. -/
theorem accepted_of_load {d : Document} (hload : store.load = .ok d)
    (hlevel : Text.upper s.logLevel ∈ usualLevels)
    (hnames : ∀ name ∈ s.mandatoryParams.names,
      name.any Text.LooseChar.isHalf = false) : Accepted s store := by
  obtain ⟨text, log, hrender⟩ :=
    Render.exists_renderNames hload s.pathPrefix hnames
  refine ⟨⟨text, log, hrender, says_of_renderNames hrender⟩, ?_,
    fun root => ?_⟩
  · unfold answer serve serveReadiness
    dsimp only
    rw [hload]
    exact ⟨rfl, rfl⟩
  · obtain ⟨after, log, hrun, herrors⟩ :=
      Lifecycle.run_eq_ok hlevel store root
    refine ⟨after, log, hrun, herrors.trans ?_⟩
    unfold Lifecycle.templateLog
    rw [hload]

/-- The fault of a template reaches whoever asks for the document. -/
theorem renderNames_of_load_error {f : Fault} (hload : store.load = .error f)
    (base : String) (names : List Text.LooseText) :
    Render.renderNames .standard store base names
      = .error (.fault f) := by
  unfold Render.renderNames Render.render Render.build
  rw [hload]
  cases names.findSome? WriteFault.ofText? <;> rfl

/-- A template that does not load is rejected at every visit, with the
text of its fault. -/
theorem rejected_of_load {reason : String} {cause : Option Rejection}
    (hload : store.load = .error (.corruptTemplate reason cause))
    (hlevel : Text.upper s.logLevel ∈ usualLevels) :
    Rejected s store (Fault.corruptTemplate reason cause).message := by
  refine ⟨?_, ?_, ?_, fun root => ?_⟩
  · unfold answer serve serveDocument
    dsimp only
    rw [renderNames_of_load_error hload]
    exact ⟨rfl, rfl⟩
  · unfold answer serve serveReadiness
    dsimp only
    rw [hload]
    exact ⟨rfl, rfl⟩
  · unfold answer serve serveReadiness
    dsimp only
    rw [hload]
    rfl
  · obtain ⟨after, log, hrun, herrors⟩ :=
      Lifecycle.run_eq_ok hlevel store root
    refine ⟨after, log, hrun, ?_⟩
    rw [herrors]
    unfold Lifecycle.templateLog
    rw [hload]
    rfl

/-- Every plain request in a run is answered from the settings and its
own store, and the three judges of a template agree with the reader of
documents. -/
theorem verdicts_agree (site : Site)
    (hlevel : Text.upper s.logLevel ∈ usualLevels)
    (hnames : ∀ name ∈ s.mandatoryParams.names,
      name.any Text.LooseChar.isHalf = false) :
    (∀ visits : List Visit,
      (visits.map fun v => handle site s (.store v.store) v.request)
        = visits.map fun v => answer s v.store v.endpoint)
      ∧ ∀ store : TemplateStore,
        (∀ d, Document.parse store.raw = .ok d → Accepted s store)
        ∧ ∀ r, Document.parse store.raw = .error r →
          Rejected s store
            (Fault.corruptTemplate r.text (some r)).message := by
  refine ⟨fun visits => List.map_congr_left fun v _ =>
      handle_plain site s v,
    fun store => ⟨fun d hd => ?_, fun r hr => ?_⟩⟩
  · exact accepted_of_load (TemplateStore.load_eq_ok_iff.2 hd) hlevel
      hnames
  · refine rejected_of_load ?_ hlevel
    unfold TemplateStore.load TemplateStore.parse
    rw [hr]
    rfl

/-- A service with a path and a name, and two stores of which one holds
no document. -/
theorem verdicts_agree_tenant :
    let site : Site := ⟨.usual, fun _ _ => detail 404 "Not Found"⟩
    let s : Settings := { Settings.standard with
      pathPrefix := "/v1"
      mandatoryParams := .ofList [Text.loosen "tenant"]
      logLevel := "ERROR" }
    let good : TemplateStore := ⟨.text (Json.obj
      [("openapi", .str "3.1.0"),
        ("paths", .obj [("/graph", .obj [])])]).compact⟩
    let bad : TemplateStore := ⟨.text "["⟩
    (∀ visits : List Visit,
      (visits.map fun v => handle site s (.store v.store) v.request)
        = visits.map fun v => answer s v.store v.endpoint)
      ∧ Accepted s good
      ∧ ∃ r, Document.parse bad.raw = .error r
        ∧ Rejected s bad (Fault.corruptTemplate r.text (some r)).message := by
  intro site s good bad
  have hgood : good.load = .ok ⟨"3.1.0", some
      [("/graph", ⟨0, .item ⟨none, []⟩⟩)], []⟩ :=
    TemplateStore.load_compact (by decide) rfl
  have hbad : ∃ r, Document.parse bad.raw = .error r := ⟨_, rfl⟩
  obtain ⟨r, hr⟩ := hbad
  obtain ⟨hvisits, hjudges⟩ :=
    verdicts_agree site (s := s) (by decide) (by decide)
  exact ⟨hvisits,
    (hjudges good).1 _ (TemplateStore.load_eq_ok_iff.1 hgood), r, hr,
    (hjudges bad).2 r hr⟩

end Http

end ApiMount
