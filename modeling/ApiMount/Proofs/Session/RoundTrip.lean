/-
What a session writes is what it works on (`run_roundTrips`). However
the working document came about, writing it fails exactly when one of its
extras has no JSON form; otherwise its text is accepted, and as a
document with the same content. Only that two keys hold one entry does
not show in a text: in the document that is read, no two do.

The content is lost by no step because a document stays sound
(`run_sound`), and by no writing because a sound document is read from
its own JSON (`Document.parse_compact`).
-/
import ApiMount.Proofs.Document.Codec
import ApiMount.Proofs.Session.Sound

namespace ApiMount

open Json Table

/-- Fresh slots are numbered in turn. -/
theorem Routes.numbers_fresh (number : Nat) (t : Table PathEntry) :
    (Routes.fresh number t).map (fun pair => pair.2.number)
      = List.range' number t.length := by
  induction t generalizing number with
  | nil => rfl
  | cons head rest ih =>
      obtain ⟨key, entry⟩ := head
      show number :: (Routes.fresh (number + 1) rest).map _ = _
      rw [ih, List.length_cons, List.range'_succ]

namespace Document

variable {d : Document}

/-- No two keys hold one entry. -/
def Unshared (d : Document) : Prop :=
  (d.routes.map fun pair => pair.2.number).Nodup

/-- No two routes of a renumbered document are one. -/
theorem unshared_renumbered (d : Document) : d.renumbered.Unshared := by
  unfold Unshared renumbered Document.routes
  cases d.paths with
  | none => exact List.nodup_nil
  | some routes =>
      show ((Routes.fresh 0 routes.entries).map _).Nodup
      rw [Routes.numbers_fresh]
      exact List.nodup_range'

/-- A document is written unless an extra has no JSON form, and what is
written of it is accepted as a document with the same content. -/
structure RoundTrips (d : Document) : Prop where
  fails_iff : (∃ fault, Render.textOf d = .error fault)
    ↔ ∃ key, (key, Extra.unwritable) ∈ d.extras
  parses : ∀ text, Render.textOf d = .ok text →
    ∃ e, parse (.text text) = .ok e ∧ d.SameContent e ∧ e.Unshared

/-- A sound document makes the round trip within the limits of the
reader. -/
theorem Sound.roundTrips (h : d.Sound)
    (hl : d.toJson.Fits (Reader.levelLimit + 1)) : d.RoundTrips := by
  have hdepth : d.toJson.levels ≤ depthLimit :=
    Nat.le_trans hl.levels (by decide)
  -- writing fails exactly at an extra without JSON form; the limits are
  -- met by what the document must fit in
  by_cases hw : d.IsWritable
  · have htext := textOf_eq_ok hw hdepth
    refine ⟨⟨?_, ?_⟩, ?_⟩
    · intro hfails
      obtain ⟨fault, hfault⟩ := hfails
      rw [htext] at hfault
      cases hfault
    · intro hextra
      obtain ⟨key, hkey⟩ := hextra
      exact absurd hkey (hw key)
    · intro text ht
      rw [htext] at ht
      cases ht
      exact ⟨d.renumbered, parse_compact h hw hl,
        sameContent_renumbered d, unshared_renumbered d⟩
  · obtain ⟨key, hkey⟩ := Classical.not_forall.1 hw
    have hmem := Classical.not_not.1 hkey
    refine ⟨⟨fun _ => ⟨key, hmem⟩, fun _ => ?_⟩, ?_⟩
    · cases ht : Render.textOf d with
      | error fault => exact ⟨fault, rfl⟩
      | ok text => exact absurd ht (textOf_ne_ok hmem text)
    · intro text ht
      exact absurd ht (textOf_ne_ok hmem text)

end Document

/-- A store of a compact text loads what its value is a document of. -/
theorem TemplateStore.load_compact {v : Json} {d : Document}
    (hv : v.Fits (Reader.levelLimit + 1))
    (h : Document.ofJson v = .ok d) :
    TemplateStore.load ⟨.text v.compact⟩ = .ok d := by
  unfold TemplateStore.load TemplateStore.parse
  rw [mapError_eq_ok_iff, Document.parse_text_eq_ok_iff]
  exact ⟨v, read_compact hv, Document.ofJson_eq_ok_iff.1 h⟩

namespace Session

variable {store : TemplateStore} {fresh : Document} {steps : List Step}

/-- Whatever template a session starts from and whatever it does, it
works on one whole document all the time, and the document that it ends
with makes the round trip. Names, keys and paths are texts here, without
halves of surrogate pairs. -/
theorem run_roundTrips (hload : store.load = .ok fresh)
    (hsteps : ∀ s ∈ steps, s.IsOrdinary) :
    ∃ d, (runFrom store (.whole fresh) steps).2 = .whole d
      ∧ (d.toJson.Fits (Reader.levelLimit + 1) → d.RoundTrips) := by
  have hstart : (WorkingDocument.whole fresh).Sound :=
    TemplateStore.sound_of_load hload
  have hend : (runFrom store (.whole fresh) steps).2.Sound :=
    run_sound hstart hsteps
  cases hw : (runFrom store (.whole fresh) steps).2 with
  | apart p =>
      rw [hw] at hend
      exact hend.elim
  | whole d =>
      rw [hw] at hend
      exact ⟨d, rfl, Document.Sound.roundTrips hend⟩

/-- A session that injects into a route, shares it, mounts both keys and
sets an extra. -/
theorem run_roundTrips_shared :
    ∃ d, (runFrom ⟨.text (Json.obj [("openapi", .str "3.1.0"),
          ("paths", .obj [("/graph", .obj [])])]).compact⟩
        (.whole ⟨"3.1.0", some [("/graph", ⟨0, .item ⟨none, []⟩⟩)], []⟩)
        [.routes (.inject .standard "/graph" [.str "tenant"]),
          .routes (.share "/graph" "/copy"), .routes (.mount "/v1"),
          .set "x-owner" (.json (.int 7))]).2 = .whole d
      ∧ d.routeKeys = ["/v1/graph", "/v1/copy"] ∧ d.RoundTrips := by
  have hsteps : ∀ s ∈ [Step.routes (.inject .standard "/graph"
        [.str "tenant"]), .routes (.share "/graph" "/copy"),
      .routes (.mount "/v1"), .set "x-owner" (.json (.int 7))],
      s.IsOrdinary := by
    intro s hs
    simp only [List.mem_cons, List.not_mem_nil, or_false] at hs
    rcases hs with rfl | rfl | rfl | rfl
    · exact trivial
    · exact trivial
    · exact trivial
    · exact ⟨.inl (by decide), trivial⟩
  obtain ⟨d, hd, h⟩ := run_roundTrips
    (TemplateStore.load_compact (v := .obj [("openapi", .str "3.1.0"),
      ("paths", .obj [("/graph", .obj [])])]) (by decide) rfl) hsteps
  refine ⟨d, hd, ?_⟩
  -- no step looks at the store, and its text is not to be evaluated
  generalize TemplateStore.mk _ = store at hd
  cases hd
  exact ⟨rfl, h (by decide)⟩

end Session

end ApiMount
