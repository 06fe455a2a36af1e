/-
What an injection does, and what it leaves alone. A route that is absent
or a reference stays as it is, and so does the whole document
(`Document.inject_cases`). A route described in place gains one parameter
for every name or none at all, for the template makes a query parameter
for all names or for none (`Document.inject_allOrNothing`). The
parameters show under the keys that hold the route's own entry, and
nothing else in the document changes (`Document.Gains`).

All of this ends in a report, but for one case: a template that makes no
entry of a parameter list stops the injection at a route described in
place, where the report should have named what it could not inject
(`Document.reports_iff`).
-/
import ApiMount.Proofs.Document.Shape
import ApiMount.Proofs.Session.Actions

namespace ApiMount

open Json Table

-- =========================================================== the entries

/-- Nothing to append, and no entry changes. -/
theorem Routes.update_append_nil (n : Nat) (routes : Routes) :
    routes.update n (.append []) = routes := by
  unfold Routes.update mapValues
  refine (List.map_congr_left fun pair _ => ?_).trans (List.map_id routes)
  refine Prod.ext rfl ?_
  show (if pair.2.number = n then
    { pair.2 with entry := pair.2.entry.append [] } else pair.2) = pair.2
  rw [PathEntry.append_nil]
  by_cases h : pair.2.number = n
  · rw [if_pos h]
  · rw [if_neg h]

namespace Document

variable {d after : Document} {template : ParameterTemplate}
  {route : String} {slot : Slot} {i : PathItem} {p : Parameter}
  {names : List String}

/-- A document that has gained parameters at a route: they stand, in
order, at the end of the list of the route's entry, under every key that
holds this entry. The list is there if it was there, or if it has
anything to hold. -/
structure Gains (d : Document) (route : String) (added : List Parameter)
    (after : Document) : Prop where
  version : after.version = d.version
  extras : after.extras = d.extras
  ownPaths : after.paths.isSome = d.paths.isSome
  routeKeys : after.routeKeys = d.routeKeys
  /-- No key holds another entry than before. -/
  numbers : ∀ key, after.routes.number? key = d.routes.number? key
  appends : ∀ key, d.routes.Linked route key → ∃ i j,
    d.entry? key = some (.item i) ∧ after.entry? key = some (.item j)
      ∧ j.parameters.getD []
        = i.parameters.getD [] ++ added.map .parameter
      ∧ (j.parameters = none ↔ i.parameters = none ∧ added = [])
      ∧ j.extras = i.extras
  spares : ∀ key, ¬ d.routes.Linked route key →
    after.entry? key = d.entry? key
  idle : added = [] → after = d

/-- With nothing to append, an update changes nothing. -/
theorem update_append_nil (d : Document) (n : Nat) :
    { d with paths := d.paths.map (·.update n (.append [])) } = d := by
  rw [funext (Routes.update_append_nil n)]
  simp only [Option.map_id']

/-- Appending parameters moves no route. -/
theorem routeKeys_update
    (found : d.routes.get? route = some slot) (f : PathEntry → PathEntry) :
    ({ d with paths := d.paths.map (·.update slot.number f) }
      : Document).routeKeys = d.routeKeys := by
  unfold routeKeys
  rw [Session.routes_map_of_get? found]
  exact keys_mapValues _ d.routes

/-- A route described in place gains what is appended to its slot. -/
theorem gains_update (hc : d.routes.Coherent)
    (found : d.routes.get? route = some slot)
    (inPlace : slot.entry = .item i) (added : List Parameter) :
    d.Gains route added { d with
      paths := d.paths.map (·.update slot.number (.append added)) } := by
  have hroutes : ({ d with
      paths := d.paths.map (·.update slot.number (.append added)) }
        : Document).routes = d.routes.update slot.number (.append added) :=
    Session.routes_map_of_get? found _
  -- keys and numbers first, then the keys linked with the route, the
  -- others, and the case that nothing is appended
  refine ⟨rfl, rfl, Option.isSome_map, ?_, ?_, ?_, ?_, ?_⟩
  · exact routeKeys_update found (.append added)
  · intro key
    rw [hroutes, Routes.number?_update]
  · intro key hlinked
    obtain ⟨hkey, hafter⟩ :=
      hc.entryUnder_append found inPlace added hlinked
    obtain ⟨hlist, hextras⟩ := i.getD_append added
    refine ⟨i, i.append added, hkey, ?_, hlist,
      PathItem.parameters_append_eq_none_iff, hextras⟩
    unfold entry?
    rw [hroutes]
    exact hafter
  · intro key hlinked
    unfold entry?
    rw [hroutes]
    exact (Routes.entryUnder_update found key).2 hlinked
  · rintro rfl
    exact d.update_append_nil slot.number

-- ============================================================ injections

/-- What an injection of names at a route reports, and what it makes of
the document. Into a route described in place it injects all names or
none: the template makes a query parameter for each, the same one but for
the name, or an entry of another kind for each. -/
inductive Injects (d : Document) (template : ParameterTemplate)
    (route : String) (names : List String) :
    InjectionReport → Document → Prop where
  | absent (none : d.entry? route = none) :
    Injects d template route names (.skipped route) d
  | pointing {r : Reference} (points : d.entry? route = some (.reference r)) :
    Injects d template route names (.refused route) d
  | injected {i : PathItem} {p : Parameter} {after : Document}
      (inPlace : d.entry? route = some (.item i))
      (query : p.location = .query) (makes : template.Makes p)
      (gains : d.Gains route (names.map p.named) after) :
    Injects d template route names (.done route names []) after
  | unfit {i : PathItem} (inPlace : d.entry? route = some (.item i))
      (other : template.Unfit ∨ names = []) :
    Injects d template route names (.done route [] (names.map .str)) d

/-- Whoever injects with a template that makes something for each name
injects all names or none, and changes nothing but the list of the
route's own entry. -/
theorem inject_allOrNothing (ht : (Json.obj template).Distinct)
    (hc : d.routes.Coherent)
    (hmakes : ∀ name ∈ names, ∃ e, template.build (.str name) = .ok e) :
    ∃ report after,
      d.inject template route (names.map .str) = .ok (report, after)
        ∧ d.Injects template route names report after := by
  rcases d.inject_cases template route (names.map .str) with
    ⟨none, h⟩ | ⟨r, points, h⟩ | ⟨slot, i, found, place, inPlace, h⟩
  · exact ⟨_, _, h, .absent none⟩
  · exact ⟨_, _, h, .pointing points⟩
  · have hgains := gains_update hc found place
    rcases template.shape_cases ht with
      ⟨p, hquery, hp⟩ | hunfit | hshapeless
    · rw [template.buildAll_of_makes hquery hp] at h
      refine ⟨_, _, h, ?_⟩
      rw [List.map_map, List.map_id'']
      · exact .injected inPlace hquery hp (hgains _)
      · exact fun name => rfl
    · rw [template.buildAll_of_unfit hunfit] at h
      refine ⟨_, _, h, ?_⟩
      rw [(hgains []).idle rfl]
      exact .unfit inPlace (.inl hunfit)
    · -- what makes nothing for any name has no name to fail at here
      cases names with
      | nil =>
          refine ⟨_, _, h, ?_⟩
          rw [(hgains []).idle rfl]
          exact .unfit inPlace (.inr rfl)
      | cons name names =>
          obtain ⟨e, he⟩ := hmakes name List.mem_cons_self
          obtain ⟨f, hf⟩ := hshapeless name
          rw [hf] at he
          cases he

/-- A template that has its schema under the second name and no name of
its own, injected at a route that two keys hold. -/
theorem inject_allOrNothing_shared :
    let template : ParameterTemplate := [("schema_", .null),
      ("x-of", .arr [.str "T"]), ("in", .str "query"),
      ("required", .str "YES")]
    let d : Document := ⟨"3.1.0", some
      [("/graph", ⟨0, .item ⟨none, [("get", .obj [])]⟩⟩),
        ("/there", ⟨1, .reference ⟨"#/x", []⟩⟩),
        ("/copy", ⟨0, .item ⟨none, [("get", .obj [])]⟩⟩)], []⟩
    let p : Parameter :=
      ⟨.query, "", some true, some none, [("x-of", .arr [.str "T"])]⟩
    (Json.obj template).Distinct ∧ d.routes.Coherent
      ∧ template.Makes p
      ∧ ∃ after, d.inject template "/copy" (["b", "a", "b"].map .str)
          = .ok (.done "/copy" ["b", "a", "b"] [], after)
        ∧ d.Injects template "/copy" ["b", "a", "b"]
          (.done "/copy" ["b", "a", "b"] []) after := by
  intro template d p
  have ht : (Json.obj template).Distinct := by decide
  let loaded : Routes :=
    .fresh 0 [("/graph", .item ⟨none, [("get", .obj [])]⟩),
      ("/there", .reference ⟨"#/x", []⟩)]
  have found : loaded.get? "/graph"
      = some ⟨0, .item ⟨none, [("get", .obj [])]⟩⟩ := rfl
  have hc : d.routes.Coherent :=
    (Routes.coherent_fresh 0 _).put found "/copy"
  have hp : template.Makes p := template.makes_of_build ht rfl
  obtain ⟨report, after, h, hinjects⟩ :=
    inject_allOrNothing ht hc fun name _ => ⟨_, hp name⟩
  have hreport : (d.inject template "/copy"
      (["b", "a", "b"].map .str)).map Prod.fst
        = .ok (.done "/copy" ["b", "a", "b"] []) := rfl
  rw [h] at hreport
  cases hreport
  exact ⟨ht, hc, hp, after, h, hinjects⟩

-- =============================================================== reports

/-- An injection of names ends in a report. At a route described in
place, the report says of every name, in order, that it was injected or
that it is unfit: injected where the template makes a query parameter for
it, and unfit in every other case. The document has gained the parameters
for the injected names. -/
def Reports (d : Document) (template : ParameterTemplate)
    (route : String) (names : List String) : Prop :=
  ∃ report after,
    d.inject template route (names.map .str) = .ok (report, after)
      ∧ ∀ i, d.entry? route = some (.item i) →
        report = .done route
            (names.filter fun name => (template.query? name).isSome)
            ((names.filter fun name =>
              (template.query? name).isNone).map .str)
          ∧ d.Gains route (names.filterMap template.query?) after

/-- Where no route is described in place, nothing is built, so nothing can
fail. -/
theorem reports_of_not_inPlace
    (h : ∀ i, d.entry? route ≠ some (.item i)) :
    d.Reports template route names := by
  rcases d.inject_cases template route (names.map .str) with
    ⟨-, hok⟩ | ⟨r, -, hok⟩ | ⟨slot, i, -, -, inPlace, -⟩
  · exact ⟨_, _, hok, fun i hi => absurd hi (h i)⟩
  · exact ⟨_, _, hok, fun i hi => absurd hi (h i)⟩
  · exact absurd inPlace (h i)

/-- Where all names are made into something, the report is as it should
be. -/
theorem reports_of_buildAll (ht : (Json.obj template).Distinct)
    (hc : d.routes.Coherent) {made : List Parameter × List Json}
    (hmade : template.buildAll (names.map .str) = .ok made) :
    d.Reports template route names := by
  obtain ⟨fit, unfit⟩ := made
  obtain ⟨rfl, rfl⟩ := template.eq_of_buildAll hmade
  rcases d.inject_cases template route (names.map .str) with
    ⟨none, -⟩ | ⟨r, points, -⟩ | ⟨slot, i, found, place, -, hok⟩
  · exact reports_of_not_inPlace fun i hi => nomatch none.symm.trans hi
  · exact reports_of_not_inPlace fun i hi => nomatch points.symm.trans hi
  · rw [hmade] at hok
    refine ⟨_, _, hok, fun _ _ => ⟨?_, gains_update hc found place _⟩⟩
    rw [template.map_name_query? ht]

/-- At a route described in place, a template that makes nothing fails
with what is wrong with the first name. -/
theorem exists_error_inject_of_shapeless (h : template.Shapeless)
    (inPlace : d.entry? route = some (.item i)) (name : String)
    (names : List String) :
    ∃ f, template.build (.str name) = .error f
      ∧ d.inject template route ((name :: names).map .str)
        = .error f := by
  obtain ⟨f, hf, hall⟩ := template.exists_error_of_shapeless h name names
  refine ⟨f, hf, ?_⟩
  rcases d.inject_cases template route ((name :: names).map .str) with
    ⟨none, -⟩ | ⟨r, points, -⟩ | ⟨slot, j, -, -, -, herror⟩
  · exact nomatch none.symm.trans inPlace
  · exact nomatch points.symm.trans inPlace
  · rw [herror, hall]
    rfl

/-- An injection reports as it should, unless its template is no entry of
a parameter list, it has names to inject, and the route is described in
place. Then it fails with what is wrong with the first name. -/
theorem reports_iff (ht : (Json.obj template).Distinct)
    (hc : d.routes.Coherent) :
    (d.Reports template route names
        ↔ template.IsEntry ∨ names = []
          ∨ ∀ i, d.entry? route ≠ some (.item i))
      ∧ (¬ d.Reports template route names →
        ∃ name f, names.head? = some name
          ∧ template.build (.str name) = .error f
          ∧ d.inject template route (names.map .str) = .error f) := by
  by_cases hentry : template.IsEntry
  · obtain ⟨made, hmade⟩ := template.exists_buildAll ht
      ((template.isEntry_iff ht).1 hentry) names
    have hreports : d.Reports template route names :=
      reports_of_buildAll ht hc hmade
    exact ⟨iff_of_true hreports (.inl hentry), absurd hreports⟩
  -- the template makes nothing, and it takes a route described in place
  -- and a name to find that out
  by_cases hplace : ∀ i, d.entry? route ≠ some (.item i)
  · have hreports : d.Reports template route names :=
      reports_of_not_inPlace hplace
    exact ⟨iff_of_true hreports (.inr (.inr hplace)), absurd hreports⟩
  cases names with
  | nil =>
      have hreports : d.Reports template route [] :=
        reports_of_buildAll ht hc rfl
      exact ⟨iff_of_true hreports (.inr (.inl rfl)), absurd hreports⟩
  | cons name names =>
      have hnone : template.Shapeless := by
        by_contra h
        exact hentry ((template.isEntry_iff ht).2 h)
      obtain ⟨i, inPlace⟩ := not_forall_not.1 hplace
      obtain ⟨f, hf, herror⟩ :=
        exists_error_inject_of_shapeless hnone inPlace name names
      refine ⟨iff_of_false ?_ ?_, fun _ => ⟨name, f, rfl, hf, herror⟩⟩
      · rintro ⟨report, after, hok, -⟩
        rw [herror] at hok
        cases hok
      · rintro (h | h | h)
        · exact hentry h
        · cases h
        · exact hplace h

/-- A template that becomes a reference by what it says of itself: all
names are reported as unfit. -/
theorem reports_iff_disguised :
    let template : ParameterTemplate :=
      [("name", .int 7), ("in", .str "reference"), ("ref", .str "#/x")]
    let d : Document :=
      ⟨"3.1.0", some [("/graph", ⟨0, .item ⟨none, []⟩⟩)], []⟩
    (Json.obj template).Distinct ∧ d.routes.Coherent
      ∧ template.IsEntry ∧ d.Reports template "/graph" ["a", "a", ""] := by
  intro template d
  have ht : (Json.obj template).Distinct := by decide
  have hc : d.routes.Coherent :=
    Routes.coherent_fresh 0 [("/graph", .item ⟨none, []⟩)]
  have hentry : template.IsEntry := by
    rw [template.isEntry_iff ht]
    intro hnone
    obtain ⟨f, hf⟩ := hnone "a"
    cases hf
  exact ⟨ht, hc, hentry, (reports_iff ht hc).1.2 (.inl hentry)⟩

/-- A template for a place that parameters have not: the name is not
reported as unfit, for there is no report. -/
theorem not_reports_unplaced :
    ¬ Reports ⟨"3.0.0", some [("/graph", ⟨0, .item ⟨none, []⟩⟩)], []⟩
      [("in", .str "body")] "/graph" ["A"] := by
  rintro ⟨report, after, h, -⟩
  cases h

end Document

end ApiMount
