/-
Sharing is exact over whole sessions (`run_sharing`). Two keys are linked
when they hold one entry; `Step.Relinks` says of every step which keys
are linked after it, by those that were linked before. At every point of
every session, linked keys show alike, and what is injected at a key
appears under the keys linked to it and under no others.

Entries sit in slots, and sharing copies a slot. So what carries all this
is that slots of one number never differ (`run_coherent`): a change
reaches every slot of its number, and nothing else writes entries.
Sessions may do anything here, take the document apart included; the
table then counts as long as it stands in its place.
-/
import ApiMount.Proofs.Session.Actions
import ApiMount.Proofs.Template.Load

namespace ApiMount.Session

open Table

variable {store : TemplateStore} {fresh : Document} {w : WorkingDocument}
  {routes after : Routes} {a b route target : String}
  {result : Except StepFailure Answer} {isApart : Prop}

-- ================================================================= links

/-- A document that was taken apart. -/
def WorkingDocument.IsApart : WorkingDocument → Prop
  | .whole _ => False
  | .apart _ => True

/-- Which keys a step leaves linked, by those that were linked before it.
Of a document that was taken apart the routes may not be settable any
more, and whoever sets the routes, or all parts together, may take the
whole table away. -/
def Step.Relinks (isApart : Prop) (before after : Routes) :
    Step → Prop
  | .load => ∀ a b, after.Linked a b ↔ a = b ∧ a ∈ keys after
  | .routes (.share route target) =>
    ∀ a b, after.Linked a b
      ↔ if route ∈ keys before then
          before.Linked (if a = target then route else a)
            (if b = target then route else b)
        else before.Linked a b
  | .routes (.mount base) =>
    (∀ a b, after.Linked a b
        ↔ ∃ c d, a = base ++ c ∧ b = base ++ d ∧ before.Linked c d)
      ∨ isApart ∧ after = before
  | .routes (.remove route) =>
    ∀ a b, after.Linked a b ↔ a ≠ route ∧ b ≠ route ∧ before.Linked a b
  | .routes .clear => ∀ a b, ¬ after.Linked a b
  | .set name _ =>
    (∀ a b, after.Linked a b ↔ before.Linked a b)
      ∨ (Meaning.ofName name = .routes ∨ Meaning.ofName name = .parts)
        ∧ ∀ a b, ¬ after.Linked a b
  | .serialize | .describe | .render _ _ | .routes (.full _)
  | .routes (.inject _ _ _) =>
    ∀ a b, after.Linked a b ↔ before.Linked a b

/-- An action that sets nothing was done, or there was nothing to do it
to and the table is as before. -/
theorem acts_or_same {a : RouteAction}
    (h : WorkingDocument.Acted a routes after result)
    (ha : a.sets = false) :
    (∃ answer, Acts routes a answer after)
      ∨ after = routes
        ∧ (routes = [] ∨ ∀ answer r, ¬ Acts routes a answer r) := by
  cases h with
  | done acts _ => exact .inl ⟨_, acts⟩
  | failed same stuck =>
      refine .inr ⟨same, stuck.resolve_left fun hsets => ?_⟩
      rw [ha] at hsets
      cases hsets
  | none noneBefore noneAfter _ =>
      exact .inr ⟨noneAfter.trans noneBefore.symm, .inl noneBefore⟩

/-- Mounting moves the links with the keys. -/
theorem relinks_mount {base : String}
    (h : WorkingDocument.Acted (.mount base) routes after result) :
    (Step.routes (.mount base)).Relinks True routes after := by
  cases h with
  | done acts _ =>
      cases acts
      exact .inl fun a b => Routes.linked_mount_iff
  | failed same _ => exact .inr ⟨trivial, same⟩
  | none noneBefore noneAfter _ =>
      exact .inr ⟨trivial, noneAfter.trans noneBefore.symm⟩

/-- Sharing links the new key with the old one. -/
theorem relinks_share
    (h : WorkingDocument.Acted (.share route target) routes after
      result) :
    (Step.routes (.share route target)).Relinks isApart routes after := by
  intro a b
  rcases acts_or_same h rfl with ⟨answer, acts⟩ | ⟨rfl, stuck⟩
  · cases acts with
    | shared found =>
        rw [if_pos (mem_keys_of_get?_eq_some found)]
        exact Routes.linked_put_iff found
  -- an action that is stuck has no route to share
  · have habsent : route ∉ keys after := by
      rcases stuck with rfl | hstuck
      · exact List.not_mem_nil
      · intro hmem
        obtain ⟨n, hn⟩ := Routes.exists_number?_iff.2 hmem
        obtain ⟨slot, found, -⟩ := Routes.number?_eq_some_iff.1 hn
        exact hstuck _ _ (.shared found)
    rw [if_neg habsent]

theorem relinks_remove
    (h : WorkingDocument.Acted (.remove route) routes after result) :
    (Step.routes (.remove route)).Relinks isApart routes after := by
  intro a b
  rcases acts_or_same h rfl with ⟨answer, acts⟩ | ⟨rfl, stuck⟩
  · cases acts
    exact Routes.linked_without_iff
  -- an action that is stuck has no route to remove
  · have hnot (n : Nat) : after.number? route ≠ some n := by
      rcases stuck with rfl | hstuck
      · exact fun hn => by cases hn
      · intro hn
        obtain ⟨slot, found, -⟩ := Routes.number?_eq_some_iff.1 hn
        exact hstuck _ _ (.removed found)
    constructor
    · intro hlinked
      obtain ⟨n, ha, hb⟩ := id hlinked
      refine ⟨?_, ?_, hlinked⟩
      · rintro rfl
        exact hnot n ha
      · rintro rfl
        exact hnot n hb
    · exact fun hlinked => hlinked.2.2

theorem relinks_clear
    (h : WorkingDocument.Acted .clear routes after result) :
    (Step.routes .clear).Relinks isApart routes after := by
  intro a b
  rcases acts_or_same h rfl with ⟨answer, acts⟩ | ⟨rfl, rfl | hstuck⟩
  · cases acts
    exact Routes.not_linked_nil
  · exact Routes.not_linked_nil
  · exact absurd .cleared (hstuck _ _)

/-- An injection links nothing and undoes no link. -/
theorem relinks_inject {template : ParameterTemplate}
    {names : List Json}
    (h : WorkingDocument.Acted (.inject template route names) routes after
      result) :
    (Step.routes (.inject template route names)).Relinks isApart routes
      after := by
  intro a b
  rcases acts_or_same h rfl with ⟨answer, acts⟩ | ⟨rfl, -⟩
  · cases acts with
    | skipped _ | refused _ _ => exact Iff.rfl
    | injected _ _ _ => exact Routes.linked_update_iff
  · exact Iff.rfl

theorem relinks_full
    (h : WorkingDocument.Acted (.full route) routes after result) :
    (Step.routes (.full route)).Relinks isApart routes after := by
  intro a b
  rcases acts_or_same h rfl with ⟨answer, acts⟩ | ⟨rfl, -⟩
  · cases acts
    exact Iff.rfl
  · exact Iff.rfl

-- ================================================================ steps

/-- Every step links as `Step.Relinks` says. -/
theorem step_relinks (hload : store.load = .ok fresh)
    (w : WorkingDocument) (s : Step) :
    s.Relinks w.IsApart w.table (step store w s).2.table := by
  cases s with
  | load =>
      -- a loaded document has fresh slots, so no key shares an entry
      obtain ⟨hfresh, -⟩ := store.fresh_of_load hload
      intro a b
      rw [after_load hload w]
      show fresh.routes.Linked a b ↔ a = b ∧ a ∈ keys fresh.routes
      rw [hfresh]
      exact Routes.linked_fresh_iff
  | serialize | describe => exact fun _ _ => Iff.rfl
  | render base names =>
      rw [after_render]
      exact fun _ _ => Iff.rfl
  | set name value =>
      -- what is set is the table, or leaves it
      rcases w.table_set name value with hsame | ⟨hname, hnone⟩
      · refine .inl fun a b => ?_
        show (w.set name value).2.table.Linked a b ↔ _
        rw [hsame]
      · refine .inr ⟨hname, fun a b => ?_⟩
        show ¬ (w.set name value).2.table.Linked a b
        rw [hnone]
        exact Routes.not_linked_nil
  | routes a =>
      -- a mount is told apart because only a whole document is moved
      have hacted := w.acted a
      cases a with
      | mount base =>
          cases w with
          | whole d => exact .inl fun a b => Routes.linked_mount_iff
          | apart p => exact relinks_mount hacted
      | share route target => exact relinks_share hacted
      | remove route => exact relinks_remove hacted
      | clear => exact relinks_clear hacted
      | inject template route names => exact relinks_inject hacted
      | full route => exact relinks_full hacted

-- ============================================================= coherence

/-- An action on coherent routes leaves them coherent. -/
theorem Acts.coherent {action : RouteAction} {answer : Answer}
    (h : routes.Coherent)
    (acts : Acts routes action answer after) : after.Coherent := by
  cases acts with
  | skipped _ | refused _ _ | full _ _ => exact h
  | injected _ _ _ => exact h.update _ _
  | mounted => exact h.mount _
  | removed _ => exact h.without _
  | cleared => exact Routes.coherent_nil
  | shared found => exact h.put found _

/-- No step lets slots of one number differ. -/
theorem step_coherent (hload : store.load = .ok fresh)
    (h : w.table.Coherent) (s : Step) :
    (step store w s).2.table.Coherent := by
  cases s with
  | load =>
      obtain ⟨hfresh, -⟩ := store.fresh_of_load hload
      rw [after_load hload w]
      show fresh.routes.Coherent
      rw [hfresh]
      exact Routes.coherent_fresh 0 _
  | serialize | describe => exact h
  | render base names =>
      rw [after_render]
      exact h
  | set name value =>
      show (w.set name value).2.table.Coherent
      rcases w.table_set name value with hsame | ⟨-, hnone⟩
      · rw [hsame]
        exact h
      · rw [hnone]
        exact Routes.coherent_nil
  | routes a =>
      show (w.act a).2.table.Coherent
      have hacted := w.acted a
      -- what the action answers matters to no case
      revert hacted
      generalize (w.act a).1 = result
      intro hacted
      cases hacted with
      | done acts _ => exact acts.coherent h
      | failed same _ =>
          rw [same]
          exact h
      | none _ noneAfter _ =>
          rw [noneAfter]
          exact Routes.coherent_nil

/-- Nor does a run. -/
theorem run_coherent (hload : store.load = .ok fresh)
    (h : w.table.Coherent) (steps : List Step) :
    (runFrom store w steps).2.table.Coherent := by
  induction steps generalizing w with
  | nil => exact h
  | cons s rest ih => exact ih (step_coherent hload h s)

-- ========================================================= showing alike

/-- Two keys show alike: they hold the same entry, it is described alike
under both, and it is written alike, as it was declared and in full. -/
structure ShowAlike (store : TemplateStore) (w : WorkingDocument)
    (a b : String) : Prop where
  entry : w.table.entryUnder a = w.table.entryUnder b
  described : ∀ sight, (step store w .describe).1 = .ok (.view sight) →
    sight.paths.get? a = sight.paths.get? b
  declared : ∀ t, w.table.writeAll = .ok t → t.get? a = t.get? b
  full : (step store w (.routes (.full a))).1
    = (step store w (.routes (.full b))).1

/-- A view shows each key's entry, whatever its number. -/
theorem get?_view (routes : Routes) (key : String) :
    get? routes.view key = (routes.entryUnder key).map PathEntry.view := by
  unfold Routes.view Routes.entryUnder
  rw [get?_mapValues, Option.map_map]
  rfl

/-- What is written of a table under a key is what is written of the
entry there. -/
theorem get?_writeAll {t : Table Json} (h : routes.writeAll = .ok t)
    (key : String) :
    get? t key = (routes.entryUnder key).map (PathEntry.toJson .declared) := by
  -- the written table goes along with the routes
  induction routes generalizing t with
  | nil =>
      cases h
      rfl
  | cons head rest ih =>
      obtain ⟨k, slot⟩ := head
      rw [Routes.writeAll] at h
      obtain ⟨v, hv, h⟩ := bind_eq_ok_iff.1 h
      obtain ⟨vs, hvs, h⟩ := bind_eq_ok_iff.1 h
      cases h
      obtain ⟨rfl, -⟩ := PathEntry.write_eq_ok_iff.1 hv
      have hrest := ih hvs
      unfold Routes.entryUnder at hrest ⊢
      rw [get?_cons, get?_cons]
      by_cases hk : key = k
      · rw [if_pos hk, if_pos hk]
        rfl
      · rw [if_neg hk, if_neg hk]
        exact hrest

/-- What is seen of a working document's routes is what its table
shows, if it has one. -/
theorem paths_of_view {sight : Sight} (h : w.view = .ok sight)
    (htable : w.table ≠ []) : sight.paths = w.table.view := by
  cases w with
  | whole d =>
      cases h
      rfl
  | apart p =>
      change p.table ≠ [] at htable
      show sight.paths = p.table.view
      unfold WorkingDocument.view at h
      dsimp only at h
      rw [mapError_eq_ok_iff] at h
      unfold Parts.view at h
      obtain ⟨part, hpart, h⟩ := bind_eq_ok_iff.1 h
      obtain ⟨paths, hpaths, h⟩ := bind_eq_ok_iff.1 h
      obtain ⟨version, -, h⟩ := bind_eq_ok_iff.1 h
      obtain ⟨extras, -, h⟩ := bind_eq_ok_iff.1 h
      obtain ⟨own, -, h⟩ := bind_eq_ok_iff.1 h
      cases h
      rw [← Parts.tableOf_of_get hpart] at htable ⊢
      cases part with
      | value x => exact absurd rfl htable
      | routes r =>
          cases hpaths
          rfl

/-- An entry that is there is shown as it is written alone. -/
theorem act_full {d : Document} {slot : Slot}
    (h : d.routes.get? route = some slot) :
    act d (.full route)
      = (slot.entry.writeAlone.mapError .unwritableEntry).map
        fun v => (.text v.compact, d) := by
  have hentry : entryAt d route = .ok slot.entry := by
    unfold entryAt Document.entry?
    rw [h]
    rfl
  unfold act
  dsimp only
  rw [hentry]
  dsimp only
  cases slot.entry.writeAlone <;> rfl

/-- An entry is answered in full by what it is, wherever it stands. -/
theorem answer_full {slot : Slot}
    (h : w.table.get? route = some slot) :
    (w.act (.full route)).1
      = (slot.entry.writeAlone.mapError .unwritableEntry).map
        fun v => .text v.compact := by
  cases w with
  | whole d =>
      unfold WorkingDocument.act
      dsimp only
      rw [act_full h]
      cases slot.entry.writeAlone <;> rfl
  | apart p =>
      change p.table.get? route = some slot at h
      have hne : p.table ≠ [] := by
        intro hnil
        rw [hnil] at h
        cases h
      have hact : act (Parts.routesAlone p.table) (.full route) = _ :=
        act_full h
      show (p.act (.full route)).1 = _
      unfold Parts.act Parts.actOn
      rw [Parts.get_of_table_ne_nil hne]
      dsimp only
      rw [hact]
      cases slot.entry.writeAlone <;> rfl

/-- Where slots of one number are the same, linked keys show alike. -/
theorem showAlike_of_linked (h : w.table.Coherent)
    (hl : w.table.Linked a b) : ShowAlike store w a b := by
  obtain ⟨slot, ha, hb⟩ := h.get?_eq hl
  -- one slot under both keys, so one entry wherever it shows
  have hentry : w.table.entryUnder a = w.table.entryUnder b := by
    unfold Routes.entryUnder
    rw [ha, hb]
  refine ⟨hentry, ?_, ?_, ?_⟩
  · intro sight hsight
    have hview : w.view = .ok sight := by
      unfold step at hsight
      dsimp only at hsight
      obtain ⟨s, hs, hanswer⟩ := map_eq_ok_iff.1 hsight
      cases hanswer
      exact hs
    have hne : w.table ≠ [] := by
      intro hnil
      rw [hnil] at hl
      exact Routes.not_linked_nil hl
    rw [paths_of_view hview hne, get?_view, get?_view, hentry]
  · intro t ht
    rw [get?_writeAll ht, get?_writeAll ht, hentry]
  · show (w.act (.full a)).1 = (w.act (.full b)).1
    rw [answer_full ha, answer_full hb]

-- ============================================================= injecting

/-- What an injection at a key does to the table that appends parameters:
it appends these, in order, to the entry of every key that is linked to
that key, and changes the entry of no other. -/
structure AppendsExactly (before after : Routes) (route : String)
    (added : List Parameter) : Prop where
  sameKeys : keys after = keys before
  appends : ∀ key, before.Linked route key → ∃ i j,
    before.entryUnder key = some (.item i) ∧ after.entryUnder key = some (.item j)
      ∧ j.parameters.getD []
        = i.parameters.getD [] ++ added.map .parameter
      ∧ j.extras = i.extras
  spares : ∀ key, ¬ before.Linked route key →
    after.entryUnder key = before.entryUnder key

/-- Appending under one key shows under the keys linked with it, and
nowhere else. -/
theorem appendsExactly_update {slot : Slot} {i : PathItem}
    (h : routes.Coherent) (found : routes.get? route = some slot)
    (inPlace : slot.entry = .item i) (added : List Parameter) :
    AppendsExactly routes (routes.update slot.number (.append added)) route
      added := by
  refine ⟨keys_mapValues _ routes, fun key hl => ?_,
    fun key => (Routes.entryUnder_update found key).2⟩
  obtain ⟨hkey, hafter⟩ := h.entryUnder_append found inPlace added hl
  exact ⟨i, i.append added, hkey, hafter, PathItem.getD_append i added⟩

/-- What holds of the sharing in a working document: every step links as
it should, linked keys show alike, and an injection appends what it says
exactly where the keys are linked, or changes no entry at all. -/
structure SharesExactly (store : TemplateStore) (w : WorkingDocument) :
    Prop where
  relinks : ∀ s : Step,
    s.Relinks w.IsApart w.table (step store w s).2.table
  alike : ∀ a b, w.table.Linked a b → ShowAlike store w a b
  injects : ∀ template route names,
    let s : Step := .routes (.inject template route names)
    (∃ added unfit, template.buildAll names = .ok (added, unfit)
        ∧ (step store w s).1
          = .ok (.report (.done route (added.map (·.name)) unfit))
        ∧ AppendsExactly w.table (step store w s).2.table route added)
      ∨ (∀ r added unfit,
          (step store w s).1 ≠ .ok (.report (.done r added unfit)))
        ∧ (step store w s).2.table = w.table

/-- All that is claimed of sharing holds of a working document with a
coherent table. -/
theorem sharesExactly_of_coherent (hload : store.load = .ok fresh)
    (h : w.table.Coherent) : SharesExactly store w := by
  refine ⟨step_relinks hload w, fun a b => showAlike_of_linked h, ?_⟩
  intro template route names
  show (∃ added unfit, template.buildAll names = .ok (added, unfit)
      ∧ (w.act (.inject template route names)).1 = _
      ∧ AppendsExactly w.table
        (w.act (.inject template route names)).2.table route added)
    ∨ (∀ r added unfit, (w.act (.inject template route names)).1 ≠ _)
      ∧ (w.act (.inject template route names)).2.table = w.table
  -- an injection that is done appended; skipped, refused and failed ones
  -- leave the table as it was
  have hacted := w.acted (.inject template route names)
  revert hacted
  generalize (w.act (.inject template route names)).1 = result
  generalize (w.act (.inject template route names)).2.table = after
  intro hacted
  cases hacted with
  | done acts answered =>
      obtain rfl := answered.resolve_right Bool.false_ne_true
      cases acts with
      | skipped _ | refused _ _ =>
          refine .inr ⟨fun r added unfit hdone => ?_, rfl⟩
          cases hdone
      | injected found inPlace built =>
          exact .inl ⟨_, _, built, rfl,
            appendsExactly_update h found inPlace _⟩
  | failed same _ =>
      refine .inr ⟨fun r added unfit hdone => ?_, same⟩
      cases hdone
  | none noneBefore noneAfter nothing =>
      refine .inr ⟨fun r added unfit hdone => ?_,
        noneAfter.trans noneBefore.symm⟩
      cases hdone
      exact nothing r added unfit rfl

/-- Whatever template a session starts from and whatever it does, no two
keys are linked at first, and sharing is exact all the time. -/
theorem run_sharing (hload : store.load = .ok fresh)
    (steps : List Step) :
    (∀ a b, fresh.routes.Linked a b ↔ a = b ∧ a ∈ fresh.routeKeys)
      ∧ SharesExactly store (runFrom store (.whole fresh) steps).2 := by
  obtain ⟨hfresh, -⟩ := store.fresh_of_load hload
  unfold Document.routeKeys
  have hstart : (WorkingDocument.whole fresh).table.Coherent := by
    show fresh.routes.Coherent
    rw [hfresh]
    exact Routes.coherent_fresh 0 _
  refine ⟨?_, sharesExactly_of_coherent hload
    (run_coherent hload hstart steps)⟩
  rw [hfresh]
  exact fun a b => Routes.linked_fresh_iff

/-- A session that shares a route and mounts both keys: they are linked,
and what is injected at the one is appended under the other. -/
theorem run_sharing_copied :
    let store : TemplateStore := ⟨.text (Json.obj
      [("openapi", .str "3.1.0"), ("paths", .obj [("/graph", .obj []),
        ("/docs", .obj [("$ref", .str "#/docs")])])]).compact⟩
    let fresh : Document := ⟨"3.1.0", some
      [("/graph", ⟨0, .item ⟨none, []⟩⟩),
        ("/docs", ⟨1, .reference ⟨"#/docs", []⟩⟩)], []⟩
    let w := (runFrom store (.whole fresh)
      [.routes (.share "/graph" "/copy"), .routes (.mount "/v1")]).2
    (∀ a b, fresh.routes.Linked a b ↔ a = b ∧ a ∈ fresh.routeKeys)
      ∧ SharesExactly store w
      ∧ w.table.Linked "/v1/graph" "/v1/copy"
      ∧ ¬ w.table.Linked "/v1/docs" "/v1/copy" := by
  intro store fresh w
  have hload : store.load = .ok fresh :=
    TemplateStore.load_compact (by decide) rfl
  obtain ⟨hstart, hshares⟩ := run_sharing hload
    [.routes (.share "/graph" "/copy"), .routes (.mount "/v1")]
  refine ⟨hstart, hshares, ⟨0, rfl, rfl⟩, ?_⟩
  rintro ⟨n, hdocs, hcopy⟩
  cases hdocs
  cases hcopy

end ApiMount.Session
