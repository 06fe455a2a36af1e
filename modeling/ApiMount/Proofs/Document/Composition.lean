/-
Injections compose. A run of calls gives every route the names that the
calls have for it, in call order (`Injections.namesFor`), and changes
nothing else of a fresh document (`injectAll_withEntries`). So runs that
give each route the same names end with the same document, however the
names are spread over the calls and the calls over the run
(`injectAll_congr`).

The equality is one of documents, and so it counts whether a parameter
list is there at all: a call that appends nothing makes none.
-/
import ApiMount.Proofs.Template.Load

namespace ApiMount

open Table

-- =============================================================== calls

/-- Calls to make one after the other: a route, and the names for it. A
route may be called more than once. -/
abbrev Injections := Table (List String)

namespace Injections

variable {route : String} {names : List String} {calls : Injections}

/-- All names that the calls have for a route, in call order. -/
def namesFor (calls : Injections) (route : String) : List String :=
  calls.flatMap fun call => if call.1 = route then call.2 else []

theorem namesFor_cons (call : String × List String)
    (calls : Injections) (route : String) :
    namesFor (call :: calls) route
      = (if call.1 = route then call.2 else []) ++ calls.namesFor route :=
  List.flatMap_cons

theorem namesFor_append (first rest : Injections) (route : String) :
    namesFor (first ++ rest) route
      = first.namesFor route ++ rest.namesFor route :=
  List.flatMap_append

/-- A route that is called for nowhere gets no names. -/
theorem namesFor_of_notMem (h : route ∉ keys calls) :
    calls.namesFor route = [] := by
  refine List.flatMap_eq_nil_iff.2 fun call hcall => if_neg ?_
  rintro rfl
  exact h (mem_keys_of_mem hcall)

/-- One call for each of some routes, with the names that a function
has for it. -/
theorem namesFor_map {order : List String} (hn : order.Nodup)
    (f : String → List String) (route : String) :
    namesFor (order.map fun r => (r, f r)) route
      = if route ∈ order then f route else [] := by
  induction order with
  | nil => rfl
  | cons head order ih =>
      obtain ⟨hhead, hn⟩ := List.nodup_cons.1 hn
      rw [List.map_cons, namesFor_cons, ih hn]
      by_cases h : head = route
      · subst h
        rw [if_pos rfl, if_neg hhead, if_pos List.mem_cons_self,
          List.append_nil]
      · rw [if_neg h, List.nil_append]
        refine if_congr ?_ rfl rfl
        exact (List.mem_cons.trans (or_iff_right (Ne.symm h))).symm

/-- One call for each route that is called has the names of all calls. -/
theorem namesFor_grouped {order : List String} (hn : order.Nodup)
    (horder : ∀ r, r ∈ order ↔ r ∈ keys calls) (route : String) :
    namesFor (order.map fun r => (r, calls.namesFor r)) route
      = calls.namesFor route := by
  rw [namesFor_map hn]
  by_cases h : route ∈ order
  · rw [if_pos h]
  · have habsent : route ∉ keys calls := fun hk => h ((horder route).2 hk)
    rw [if_neg h, namesFor_of_notMem habsent]

/-- Two calls in a row at one route are one call with all names. -/
theorem namesFor_again (before rest : Injections) (called : String)
    (first more : List String) (route : String) :
    namesFor (before ++ (called, first) :: (called, more) :: rest) route
      = namesFor (before ++ (called, first ++ more) :: rest) route := by
  simp only [namesFor_append, namesFor_cons]
  by_cases h : called = route
  · simp only [if_pos h, List.append_assoc]
  · simp only [if_neg h, List.nil_append]

/-- The order of two calls for different routes tells nothing. -/
theorem namesFor_swap {a b : String × List String} (h : a.1 ≠ b.1)
    (before rest : Injections) (route : String) :
    namesFor (before ++ a :: b :: rest) route
      = namesFor (before ++ b :: a :: rest) route := by
  simp only [namesFor_append, namesFor_cons]
  by_cases ha : a.1 = route
  · have hb : b.1 ≠ route := fun hb => h (ha.trans hb.symm)
    simp only [if_pos ha, if_neg hb, List.nil_append]
  · simp only [if_neg ha, List.nil_append]

/-- Leaving out a call leaves out its names, and none of another
route. -/
theorem namesFor_left_out {call : String × List String}
    (before rest : Injections) {route : String}
    (h : call.1 = route → call.2 = []) :
    namesFor (before ++ call :: rest) route
      = namesFor (before ++ rest) route := by
  simp only [namesFor_append, namesFor_cons]
  by_cases hroute : call.1 = route
  · simp only [if_pos hroute, h hroute, List.nil_append]
  · simp only [if_neg hroute, List.nil_append]

/-- Entries with the parameters appended that the calls name for their
routes. -/
def appendTo (calls : Injections) (t : Table PathEntry) :
    Table PathEntry :=
  t.map fun pair =>
    (pair.1, pair.2.append ((calls.namesFor pair.1).map .mandatory))

theorem appendTo_nil (t : Table PathEntry) : appendTo [] t = t := by
  refine (List.map_congr_left fun pair _ => ?_).trans (List.map_id t)
  exact Prod.ext rfl pair.2.append_nil

/-- Calls add no route and move none. -/
theorem keys_appendTo (calls : Injections) (t : Table PathEntry) :
    keys (calls.appendTo t) = keys t := by
  unfold keys appendTo
  rw [List.map_map]
  rfl

/-- Each route gets the names of its own calls. -/
theorem get?_appendTo (t : Table PathEntry) (route : String) :
    get? (calls.appendTo t) route
      = (get? t route).map
        (.append ((calls.namesFor route).map .mandatory)) := by
  induction t with
  | nil => rfl
  | cons head rest ih =>
      obtain ⟨key, entry⟩ := head
      show get? ((key, entry.append _) :: calls.appendTo rest) route = _
      rw [get?_cons, get?_cons, ih]
      by_cases h : route = key
      · rw [if_pos h, if_pos h, h]
        rfl
      · rw [if_neg h, if_neg h]

/-- A call can be made first or be counted with the others. -/
theorem appendTo_adjust (t : Table PathEntry) :
    calls.appendTo (adjust route (.append (names.map .mandatory)) t)
      = appendTo ((route, names) :: calls) t := by
  unfold appendTo adjust
  rw [List.map_map]
  refine List.map_congr_left fun pair _ => ?_
  obtain ⟨key, entry⟩ := pair
  rw [namesFor_cons, Function.comp_apply]
  by_cases h : key = route
  · subst h
    rw [if_pos rfl, if_pos rfl, List.map_append,
      ← PathEntry.append_append]
  · rw [if_neg h, if_neg (Ne.symm h), List.nil_append]

end Injections

-- ================================================================ runs

namespace Document

open Injections

variable {d : Document} {t : Table PathEntry}

/-- Injects the standard parameter, call by call. -/
def injectAll : Injections → Document → Except ParameterFault Document
  | [], d => .ok d
  | (route, names) :: rest, d =>
    match d.inject .standard route (names.map .str) with
    | .error f => .error f
    | .ok (_, after) => injectAll rest after

/-- Over fresh slots a run of calls never fails, and what it comes to is
known of each entry. -/
theorem injectAll_withEntries (d : Document) (hn : (keys t).Nodup)
    (calls : Injections) :
    injectAll calls (d.withEntries t)
      = .ok (d.withEntries (calls.appendTo t)) := by
  induction calls generalizing t with
  | nil => rw [appendTo_nil]; rfl
  | cons call calls ih =>
      obtain ⟨route, names⟩ := call
      obtain ⟨report, h⟩ := inject_withEntries d hn route names
      rw [injectAll, h]
      dsimp only
      rw [ih, appendTo_adjust]
      rw [keys_adjust]
      exact hn

/-- A call that has nothing to append, or no place to append it to. -/
def Idle (d : Document) (call : String × List String) : Prop :=
  call.2 = [] ∨ entry? d call.1 = none
    ∨ ∃ r, entry? d call.1 = some (.reference r)

/-- What is under a key of a document is an entry of its table. -/
theorem entry?_eq_get?_entries (d : Document) (route : String) :
    entry? d route = get? d.routes.entries route :=
  (get?_mapValues Slot.entry d.routes route).symm

/-- Of a document only entries have changed, and of these only the
parameter lists: each has the parameters for the names at its end, and is
there if it was there or has anything to hold. -/
structure AppendsNames (d : Document) (names : String → List String)
    (after : Document) : Prop where
  version : after.version = d.version
  extras : after.extras = d.extras
  ownPaths : after.paths.isSome = d.paths.isSome
  routeKeys : after.routeKeys = d.routeKeys
  reference : ∀ route r, entry? d route = some (.reference r) →
    entry? after route = some (.reference r)
  item : ∀ route i, entry? d route = some (.item i) → ∃ j,
    entry? after route = some (.item j)
      ∧ j.parameters.getD [] = i.parameters.getD []
        ++ ((names route).map .mandatory).map .parameter
      ∧ (j.parameters = none ↔ i.parameters = none ∧ names route = [])
      ∧ j.extras = i.extras

/-- Appending what is called for leaves everything else. -/
theorem appendsNames_withEntries (calls : Injections) :
    d.AppendsNames calls.namesFor
      (d.withEntries (calls.appendTo d.routes.entries)) := by
  have hroutes : (d.withEntries (calls.appendTo d.routes.entries)).routes
      = Routes.fresh 0 (calls.appendTo d.routes.entries) := by
    refine routes_withEntries fun hnone => ?_
    unfold routes
    rw [hnone]
    rfl
  have hentries : (d.withEntries
      (calls.appendTo d.routes.entries)).routes.entries
        = calls.appendTo d.routes.entries := by
    rw [hroutes]
    exact Routes.mapValues_fresh 0 _
  have hentry (route : String) :
      entry? (d.withEntries (calls.appendTo d.routes.entries)) route
        = (get? d.routes.entries route).map
          (.append ((calls.namesFor route).map .mandatory)) := by
    rw [entry?_eq_get?_entries, hentries, get?_appendTo]
  -- version, extras and whether there is a table are not touched
  refine ⟨rfl, rfl, Option.isSome_map, ?_, ?_, ?_⟩
  · have hkeys := keys_appendTo calls d.routes.entries
    rw [← hentries] at hkeys
    unfold Routes.entries at hkeys
    rw [keys_mapValues, keys_mapValues] at hkeys
    exact hkeys
  · intro route r hr
    rw [entry?_eq_get?_entries] at hr
    rw [hentry, hr]
    rfl
  · intro route i hi
    obtain ⟨hlist, hextras⟩ :=
      i.getD_append ((calls.namesFor route).map .mandatory)
    rw [entry?_eq_get?_entries] at hi
    refine ⟨_, ?_, hlist, ?_, hextras⟩
    · rw [hentry, hi]
      rfl
    · rw [PathItem.parameters_append_eq_none_iff, List.map_eq_nil_iff]

/-- How the document that calls end with depends on the calls. -/
structure Composes (d : Document) (calls : Injections)
    (after : Document) : Prop where
  /-- Every route has all names that the calls have for it. -/
  appends : d.AppendsNames calls.namesFor after
  /-- One call for each route does the same, in whatever order. -/
  grouped : ∀ order : List String, order.Nodup →
    (∀ route, route ∈ order ↔ route ∈ keys calls) →
    injectAll (order.map fun route => (route, calls.namesFor route)) d
      = .ok after
  /-- Calling once more appends once more. -/
  again : ∀ before route first more rest,
    calls = before ++ (route, first) :: (route, more) :: rest →
    injectAll (before ++ (route, first ++ more) :: rest) d = .ok after
  /-- Calls at different routes change places. -/
  commute : ∀ before a b rest, calls = before ++ a :: b :: rest →
    a.1 ≠ b.1 → injectAll (before ++ b :: a :: rest) d = .ok after
  /-- Idle calls can be left out. -/
  idle : ∀ before call rest, calls = before ++ call :: rest →
    d.Idle call → injectAll (before ++ rest) d = .ok after

end Document

section

open Document Injections

variable {store : TemplateStore} {d : Document} {calls calls' : Injections}

/-- The calls on a loaded document all succeed, and each appends its
names. -/
theorem Document.injectAll_eq_ok (hload : store.load = .ok d)
    (calls : Injections) :
    injectAll calls d
      = .ok (d.withEntries (calls.appendTo d.routes.entries)) := by
  obtain ⟨hfresh, hn⟩ := TemplateStore.fresh_of_load hload
  rw [← injectAll_withEntries d hn calls, withEntries_of_fresh hfresh]

/-- Runs that append the same to every entry of a loaded document end
with the same document. -/
theorem Document.injectAll_congr (hload : store.load = .ok d)
    (h : ∀ route e, entry? d route = some e →
      e.append ((calls.namesFor route).map .mandatory)
        = e.append ((calls'.namesFor route).map .mandatory)) :
    injectAll calls d = injectAll calls' d := by
  obtain ⟨-, hn⟩ := TemplateStore.fresh_of_load hload
  rw [injectAll_eq_ok hload, injectAll_eq_ok hload]
  refine congrArg (Except.ok ∘ d.withEntries)
    (List.map_congr_left fun pair hpair => Prod.ext rfl ?_)
  refine h pair.1 pair.2 ?_
  rw [entry?_eq_get?_entries, get?_eq_some_iff hn]
  exact hpair

/-- Whatever is called on a document that was loaded: the calls succeed,
and what they come to is what one call for each route comes to. -/
theorem Document.injectAll_of_load (hload : store.load = .ok d)
    (calls : Injections) :
    ∃ after, injectAll calls d = .ok after ∧ d.Composes calls after := by
  -- the same names for every route make the same document
  have hsame {after : Injections}
      (h : ∀ route, namesFor calls route = namesFor after route) :
      injectAll after d
        = .ok (d.withEntries (calls.appendTo d.routes.entries)) := by
    rw [← injectAll_eq_ok hload calls]
    exact injectAll_congr hload fun route e _ => by rw [h route]
  refine ⟨_, injectAll_eq_ok hload calls,
    appendsNames_withEntries calls, ?_, ?_, ?_, ?_⟩
  · intro order hn horder
    exact hsame fun route => (namesFor_grouped hn horder route).symm
  · rintro before route first more rest rfl
    exact hsame (namesFor_again before rest route first more)
  · rintro before a b rest rfl hne
    exact hsame (namesFor_swap hne before rest)
  -- a call is idle without names, without a route, or at a reference
  · rintro before call rest rfl hidle
    rw [← injectAll_eq_ok hload]
    refine injectAll_congr hload fun route e he => ?_
    rcases hidle with hnone | habsent | ⟨r, hr⟩
    · rw [namesFor_left_out before rest fun _ => hnone]
    · rw [namesFor_left_out before rest]
      rintro rfl
      rw [he] at habsent
      cases habsent
    · cases e with
      | reference _ => rfl
      | item i =>
          rw [namesFor_left_out before rest]
          rintro rfl
          rw [he] at hr
          cases hr

/-- Five calls at four routes, two of which append nothing. -/
theorem Document.injectAll_of_load_interleaved :
    let store : TemplateStore := ⟨.text (Json.obj
      [("openapi", .str "3.1.0"),
        ("paths", .obj [("/graph", .obj []), ("/data", .obj []),
          ("/there", .obj [("$ref", .str "#/x")])])]).compact⟩
    ∃ d after, store.load = .ok d
      ∧ injectAll [("/graph", ["a"]), ("/there", ["b"]),
        ("/data", ["c"]), ("/graph", ["a", "b"]), ("/gone", ["a"])] d
          = .ok after
      ∧ injectAll [("/data", ["c"]), ("/gone", ["a"]),
        ("/graph", ["a", "a", "b"]), ("/there", ["b"])] d = .ok after := by
  intro store
  have hload : store.load = .ok ⟨"3.1.0", some
      [("/graph", ⟨0, .item ⟨none, []⟩⟩), ("/data", ⟨1, .item ⟨none, []⟩⟩),
        ("/there", ⟨2, .reference ⟨"#/x", []⟩⟩)], []⟩ :=
    TemplateStore.load_compact (by decide) rfl
  obtain ⟨after, hafter, hcomposes⟩ := injectAll_of_load hload
    [("/graph", ["a"]), ("/there", ["b"]), ("/data", ["c"]),
      ("/graph", ["a", "b"]), ("/gone", ["a"])]
  refine ⟨_, after, hload, hafter, ?_⟩
  have hroutes : ["/data", "/gone", "/graph", "/there"]
      ⊆ ["/graph", "/there", "/data", "/graph", "/gone"] := by decide
  have hcalled : ["/graph", "/there", "/data", "/graph", "/gone"]
      ⊆ ["/data", "/gone", "/graph", "/there"] := by decide
  exact hcomposes.grouped ["/data", "/gone", "/graph", "/there"]
    (by decide) fun route => ⟨fun h => hroutes h, fun h => hcalled h⟩

end

end ApiMount
