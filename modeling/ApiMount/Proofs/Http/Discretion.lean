/-
What a client gets to see (`handle_discreet`). A failure to find a
template is answered in the same way whatever its words are, and they
reach nothing but the log. And whoever does not ask for the template is
answered from the request alone: neither settings nor stores nor
failures show, not even in the log. The pages about the service are among
the answers of this kind, whatever they are.

Who does ask is told by the method and the path (`AsksForTemplate`). No
preflight does, so dispatching decides which endpoint serves a request
(`dispatch_eq_serve_iff`), and only two of the three endpoints look at the
template at all. That they do look shows in the answers: a store with a
document and one without are told apart.
-/
import ApiMount.Proofs.Http.Agreement

namespace ApiMount.Http

open Log

-- ============================================================= dispatch

/-- A request to which the template matters: a `GET` of the document, or
of whether it is ready. -/
def Request.AsksForTemplate (r : Request) : Prop :=
  r.method = "GET" ∧ ∃ e ∈ [Endpoint.readiness, Endpoint.document],
    (Route.endpoint e).isAt (Target.ofText r.target).path = true

/-- No two routes have a path in common. -/
theorem Route.at?_eq_some_iff {r : Route} {path : List Char} :
    Route.at? path = some r ↔ r.isAt path = true := by
  constructor
  · intro h
    unfold at? at h
    have hfound := List.find?_some h
    exact hfound
  · intro h
    unfold isAt at h
    rw [Bool.or_eq_true, beq_iff_eq, beq_iff_eq] at h
    cases r with
    | endpoint e => rcases h with rfl | rfl <;> cases e <;> decide
    | page p => rcases h with rfl | rfl <;> cases p <;> decide

variable {site : Site} {r : Request} {e : Endpoint} {s s' : Settings}
  {source source' : TemplateSource}

/-- An endpoint serves a `GET` at its path, and nothing else. -/
theorem dispatch_eq_serve_iff :
    Dispatch.ofRequest r = .serve e
      ↔ r.method = "GET"
        ∧ (Route.endpoint e).isAt (Target.ofText r.target).path = true := by
  rw [← Route.at?_eq_some_iff]
  unfold Dispatch.ofRequest
  dsimp only
  cases hat : Route.at? (Target.ofText r.target).path with
  | some found =>
      cases found with
      | page p =>
          refine iff_of_false nofun fun h => ?_
          cases h.2
      | endpoint found =>
          dsimp only
          by_cases hget : r.method = "GET"
          · rw [if_pos hget, Dispatch.serve.injEq, Option.some.injEq,
              Route.endpoint.injEq]
            exact (and_iff_right hget).symm
          · rw [if_neg hget]
            exact iff_of_false nofun fun h => hget h.1
  | none =>
      -- where no route is at the path, a redirect is the most there is
      refine iff_of_false ?_ (fun h => nomatch h.2)
      dsimp only
      cases otherSlash? (Target.ofText r.target).path with
      | none => nofun
      | some path =>
          dsimp only
          by_cases hpath : (Route.at? path).isSome = true
          · rw [if_pos hpath]
            nofun
          · rw [if_neg hpath]
            nofun

/-- A request that asks for the template is no preflight, and is served by
an endpoint that looks at it. -/
theorem Request.AsksForTemplate.served (h : r.AsksForTemplate) :
    Preflight.ofRequest? r = none
      ∧ ∃ e, (e = .readiness ∨ e = .document)
        ∧ Dispatch.ofRequest r = .serve e := by
  obtain ⟨hget, e, he, hpath⟩ := h
  refine ⟨?_, e, ?_, dispatch_eq_serve_iff.2 ⟨hget, hpath⟩⟩
  · unfold Preflight.ofRequest?
    rw [hget, if_neg (by decide)]
  · simpa only [List.mem_cons, List.not_mem_nil, or_false] using he

/-- Any other request that an endpoint serves is one for liveness. -/
theorem eq_liveness_of_serve (h : ¬ r.AsksForTemplate)
    (hserve : Dispatch.ofRequest r = .serve e) : e = .liveness := by
  obtain ⟨hget, hpath⟩ := dispatch_eq_serve_iff.1 hserve
  cases e with
  | liveness => rfl
  | readiness | document =>
      exact absurd ⟨hget, _, by decide, hpath⟩ h

-- ============================================================== answers

/-- Without a template, whoever asks for it gets the answer that tells
nothing. -/
theorem handle_broken (h : r.AsksForTemplate) :
    ∃ e : Endpoint, ∀ site s words, handle site s (.broken words) r
      = ⟨.json 500 hiddenFailureBody, [failureRecord e.path words],
        true⟩ := by
  obtain ⟨hpreflight, e, he, hserve⟩ := h.served
  refine ⟨e, fun site s words => ?_⟩
  have hserved : serve s (.broken words) e = .error words := by
    rcases he with rfl | rfl <;> rfl
  unfold handle
  rw [hpreflight]
  dsimp only
  unfold dispatched
  rw [hserve]
  dsimp only
  rw [hserved]

/-- Who does not ask for the template is answered from the request
alone. -/
theorem handle_congr (h : ¬ r.AsksForTemplate) :
    handle site s source r = handle site s' source' r := by
  unfold handle
  cases Preflight.ofRequest? r with
  | some p => rfl
  | none =>
      dsimp only
      unfold dispatched
      cases hdispatch : Dispatch.ofRequest r with
      | unknown | wrongMethod | redirect | page => rfl
      | serve e =>
          cases eq_liveness_of_serve h hdispatch
          rfl

/-- The status of an answer is that of the endpoint's. -/
theorem status_handle (hpreflight : Preflight.ofRequest? r = none)
    (hserve : Dispatch.ofRequest r = .serve e) (site : Site)
    (s : Settings) (store : TemplateStore) :
    (handle site s (.store store) r).response.status
      = (answer s store e).response.status := by
  unfold handle
  rw [hpreflight]
  dsimp only
  unfold dispatched
  rw [hserve]
  unfold answer
  dsimp only
  cases serve s (.store store) e <;> rfl

/-- Who asks for the template can tell a store with a document from one
without. -/
theorem exists_response_ne (h : r.AsksForTemplate) (site : Site) :
    ∃ store store' : TemplateStore,
      (handle site .standard (.store store) r).response
        ≠ (handle site .standard (.store store') r).response := by
  obtain ⟨hpreflight, e, he, hserve⟩ := h.served
  -- a template that is accepted and one that is not
  let good : TemplateStore := ⟨.text (Json.obj
    [("openapi", .str "3.1.0")]).compact⟩
  let bad : TemplateStore := ⟨.text "["⟩
  have hgood : good.load = .ok ⟨"3.1.0", none, []⟩ :=
    TemplateStore.load_compact (by decide) rfl
  have hbad : ∃ reason cause,
      bad.load = .error (.corruptTemplate reason cause) := ⟨_, _, rfl⟩
  obtain ⟨reason, cause, hbad⟩ := hbad
  have haccepted := accepted_of_load (s := .standard) hgood (by decide)
    (by decide)
  have hrejected := rejected_of_load (s := .standard) hbad (by decide)
  refine ⟨good, bad, fun hsame => ?_⟩
  have hstatus := congrArg Response.status hsame
  rw [status_handle hpreflight hserve, status_handle hpreflight hserve]
    at hstatus
  rcases he with rfl | rfl
  · rw [haccepted.ready.response, hrejected.notReady.response] at hstatus
    cases hstatus
  · obtain ⟨text, log, -, hdocument⟩ := haccepted.document
    rw [hdocument.response, hrejected.document.response] at hstatus
    cases hstatus

/-- However asking for the template fails, the answer is the same. And a
request that does not ask for it, no other, has one outcome under all
settings, stores and failures. What was set up before the request is the
same throughout, whatever it is. -/
theorem handle_discreet (site : Site) (r : Request) :
    (∀ s s' words words',
      (handle site s (.broken words) r).response
          = (handle site s' (.broken words') r).response
        ∧ (handle site s (.broken words) r).raised
          = (handle site s' (.broken words') r).raised)
    ∧ ((∀ s s' source source',
        handle site s source r = handle site s' source' r)
      ↔ ¬ r.AsksForTemplate) := by
  refine ⟨fun s s' words words' => ?_, fun hsame hasks => ?_,
    fun h s s' source source' => handle_congr h⟩
  · by_cases h : r.AsksForTemplate
    · obtain ⟨e, hbroken⟩ := handle_broken h
      rw [hbroken, hbroken]
      exact ⟨rfl, rfl⟩
    · have hsame : handle site s (.broken words) r
          = handle site s' (.broken words') r := handle_congr h
      rw [hsame]
      exact ⟨rfl, rfl⟩
  · obtain ⟨store, store', hne⟩ := exists_response_ne hasks site
    exact hne (congrArg Outcome.response (hsame _ _ _ _))

end ApiMount.Http
