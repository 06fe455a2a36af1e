/-
Every step keeps a whole document whole and sound. A sound document is
what a session starts with, whatever template its store holds, and each
operation on the route table keeps it so: injecting adds parameters that
were checked like any others, mounting and sharing change keys, removing
and clearing leave entries out.

The steps that may take a document apart are those that set something at
its top. Setting an extra does not; the run lemma (`run_sound`) is about
sessions that set nothing else.
-/
import ApiMount.Proofs.Document.Building
import ApiMount.Proofs.Document.Sound
import ApiMount.Session

namespace ApiMount

open Json Table

-- =========================================================== operations

/-- A parameter that a template makes is sound. -/
theorem ParameterTemplate.sound_of_build {template : ParameterTemplate}
    {name : Json} {e : ParameterEntry}
    (h : template.build name = .ok e) : e.Sound :=
  (build_eq_ok_iff.1 h).2.sound

/-- Parameters built from a template are sound: they are read from it. -/
theorem ParameterTemplate.sound_of_buildAll
    {template : ParameterTemplate} {names unfit : List Json}
    {fit : List Parameter}
    (h : template.buildAll names = .ok (fit, unfit)) :
    ∀ p ∈ fit, p.Sound := by
  induction names generalizing fit unfit with
  | nil =>
      cases h
      exact List.forall_mem_nil _
  | cons name names ih =>
      obtain ⟨e, ⟨ps, us⟩, hb, hr, hmade⟩ := buildAll_cons_eq_ok_iff.1 h
      have he := sound_of_build hb
      have hps := ih hr
      unfold ParameterEntry.joining at hmade
      cases hq : e.query? with
      | none =>
          rw [hq] at hmade
          cases hmade
          exact hps
      | some p =>
          rw [hq] at hmade
          cases hmade
          obtain ⟨rfl, -⟩ := ParameterEntry.query?_eq_some_iff.1 hq
          exact List.forall_mem_cons.2 ⟨he, hps⟩

/-- Sound parameters may be appended to a sound route. -/
theorem PathItem.Sound.append {i : PathItem} (h : i.Sound)
    {ps : List Parameter} (hps : ∀ p ∈ ps, p.Sound) :
    (i.append ps).Sound := by
  unfold PathItem.append
  by_cases he : ps.isEmpty = true
  · rw [if_pos he]
    exact h
  · rw [if_neg he]
    refine ⟨h.extras, fun e hmem => ?_⟩
    rcases List.mem_append.1 hmem with hold | hnew
    · exact h.parameters e hold
    · obtain ⟨p, hp, rfl⟩ := List.mem_map.1 hnew
      exact hps p hp

/-- Sound parameters may be appended to any sound entry; a reference takes
none of them. -/
theorem PathEntry.Sound.append {e : PathEntry} (h : e.Sound)
    {ps : List Parameter} (hps : ∀ p ∈ ps, p.Sound) :
    (e.append ps).Sound := by
  cases e with
  | reference r => exact h
  | item i => exact PathItem.Sound.append h hps

namespace Document.Sound

variable {d : Document}

/-- A document's routes may be replaced by any others that are sound. -/
theorem withPaths (h : d.Sound) {paths : Option Routes}
    (hp : Proper (fun slot : Slot => slot.entry.Sound) []
      (paths.getD [])) : ({ d with paths } : Document).Sound :=
  ⟨h.extras, hp⟩

theorem map_routes (h : d.Sound) {f : Routes → Routes}
    (hf : Proper (fun slot : Slot => slot.entry.Sound) [] (f d.routes)) :
    ({ d with paths := d.paths.map f } : Document).Sound := by
  refine h.withPaths ?_
  unfold Document.routes at hf
  cases hd : d.paths with
  | none => exact proper_nil
  | some routes =>
      rw [hd] at hf
      exact hf

/-- An injection leaves a document sound. -/
theorem inject (h : d.Sound) {template : ParameterTemplate}
    {route : String} {names : List Json} {report : InjectionReport}
    {after : Document}
    (hi : d.inject template route names = .ok (report, after)) :
    after.Sound := by
  rcases d.inject_cases template route names with
    ⟨-, heq⟩ | ⟨r, -, heq⟩ | ⟨slot, i, -, -, -, heq⟩
  · cases heq.symm.trans hi
    exact h
  · cases heq.symm.trans hi
    exact h
  · obtain ⟨made, hmade, hdone⟩ := map_eq_ok_iff.1 (heq.symm.trans hi)
    cases hdone
    have hfit := ParameterTemplate.sound_of_buildAll hmade
    -- every slot of the number gets the parameters, every other is left
    refine h.map_routes ?_
    unfold Routes.update
    refine proper_mapValues_iff.2 (h.routes.imp ?_)
    intro s hs
    by_cases hn : s.number = slot.number
    · rw [if_pos hn]
      exact hs.append hfit
    · rw [if_neg hn]
      exact hs

theorem mount (h : d.Sound) (base : String) : (d.mount base).Sound :=
  h.withPaths (h.routes.mount base)

/-- An extra keeps a document sound under any name that is none of its
fields'. -/
theorem put (h : d.Sound) {name : String} {value : Extra}
    (hn : name ∉ ["openapi", "paths"]) (hv : value.Distinct) :
    ({ d with extras := d.extras.put name value } : Document).Sound :=
  ⟨h.extras.put hn hv, h.routes⟩

end Document.Sound

/-- Whatever a template is, what it is accepted as is sound. -/
theorem TemplateStore.sound_of_load {store : TemplateStore}
    {d : Document} (h : store.load = .ok d) : d.Sound := by
  have hparse : Document.parse store.raw = .ok d := mapError_eq_ok_iff.1 h
  obtain ⟨-, v, -, -, hfrom⟩ := Document.exists_isFrom_of_parse hparse
  exact hfrom.sound

namespace Session

-- ================================================================ steps

variable {store : TemplateStore} {d : Document}

/-- Every action leaves a document sound. -/
theorem act_sound (h : d.Sound) {a : RouteAction} {answer : Answer}
    {after : Document} (ha : act d a = .ok (answer, after)) :
    after.Sound := by
  -- nothing but an injection adds to an entry; the others move, drop or
  -- repeat entries that are there
  cases a with
  | inject template route names =>
      unfold act at ha
      dsimp only at ha
      cases hi : d.inject template route names with
      | error f =>
          rw [hi] at ha
          cases ha
      | ok pair =>
          rw [hi] at ha
          cases ha
          exact h.inject hi
  | mount base =>
      cases ha
      exact h.mount base
  | full route =>
      unfold act at ha
      dsimp only at ha
      cases he : entryAt d route with
      | error f =>
          rw [he] at ha
          cases ha
      | ok entry =>
          rw [he] at ha
          dsimp only at ha
          cases hw : entry.writeAlone with
          | error f =>
              rw [hw] at ha
              cases ha
          | ok v =>
              rw [hw] at ha
              cases ha
              exact h
  | remove route =>
      unfold act at ha
      dsimp only at ha
      cases he : entryAt d route with
      | error f =>
          rw [he] at ha
          cases ha
      | ok entry =>
          rw [he] at ha
          cases ha
          exact h.map_routes (h.routes.filter _)
  | clear =>
      cases ha
      exact h.map_routes proper_nil
  | share route target =>
      unfold act at ha
      dsimp only at ha
      cases hg : d.routes.get? route with
      | none =>
          rw [hg] at ha
          cases ha
      | some slot =>
          rw [hg] at ha
          cases ha
          have hslot := h.routes.values _ (mem_of_get?_eq_some hg)
          exact h.map_routes (h.routes.put List.not_mem_nil hslot)

/-- A step that sets no more than an extra, and gives it a value that
repeats no key. -/
def Step.IsOrdinary : Step → Prop
  | .set name value =>
    (Meaning.ofName name = .extra ∨ Meaning.ofName name = .aside)
      ∧ value.Distinct
  | _ => True

/-- A working document that is whole and sound. -/
def WorkingDocument.Sound : WorkingDocument → Prop
  | .whole d => d.Sound
  | .apart _ => False

/-- A name that means an extra is none of the fields. -/
theorem not_mem_fields_of_extra {name : String}
    (h : Meaning.ofName name = .extra) : name ∉ ["openapi", "paths"] := by
  intro hmem
  simp only [List.mem_cons, List.not_mem_nil, or_false] at hmem
  rcases hmem with rfl | rfl
  · cases h
  · cases h

/-- Setting an extra leaves a document sound. -/
theorem set_sound (h : d.Sound) {name : String} {value : Extra}
    (hs : (Step.set name value).IsOrdinary) :
    (WorkingDocument.set name value (.whole d)).2.Sound := by
  obtain ⟨hname, hvalue⟩ := hs
  have hwhole : ∃ after, WorkingDocument.setWhole? name value d
      = some after ∧ after.Sound := by
    unfold WorkingDocument.setWhole?
    rcases hname with hname | hname
    · rw [hname]
      exact ⟨_, rfl, h.put (not_mem_fields_of_extra hname) hvalue⟩
    · rw [hname]
      exact ⟨_, rfl, h⟩
  obtain ⟨after, hafter, hsound⟩ := hwhole
  unfold WorkingDocument.set
  dsimp only
  rw [hafter]
  cases refused? name value with
  | some m => exact h
  | none => exact hsound

/-- A step keeps the working document whole and sound. -/
theorem step_sound {w : WorkingDocument} (h : w.Sound) {s : Step}
    (hs : s.IsOrdinary) : (step store w s).2.Sound := by
  -- a document that was taken apart is not sound, so it is a whole one
  cases w with
  | apart p => exact h.elim
  | whole d =>
      cases s with
      | load =>
          unfold step
          dsimp only
          cases hl : store.load with
          | error f => exact h
          | ok fresh => exact TemplateStore.sound_of_load hl
      | serialize => exact h
      | describe => exact h
      | routes a =>
          unfold step WorkingDocument.act
          dsimp only
          cases ha : act d a with
          | error f => exact h
          | ok pair => exact act_sound h ha
      | set name value => exact set_sound h hs
      | render base names =>
          rw [after_render]
          exact h

/-- So does a run. -/
theorem run_sound {w : WorkingDocument} (h : w.Sound)
    {steps : List Step} (hs : ∀ s ∈ steps, s.IsOrdinary) :
    (runFrom store w steps).2.Sound := by
  induction steps generalizing w with
  | nil => exact h
  | cons s rest ih =>
      obtain ⟨hfirst, hrest⟩ := List.forall_mem_cons.1 hs
      exact ih (step_sound h hfirst) hrest

end Session

end ApiMount
