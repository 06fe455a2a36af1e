/-
What a step can do to the route table, said once. `Acts` lists what an
action that succeeds makes of a table and what it answers, one case for
each way; on a whole document nothing else happens (`acts_of_act`).

A document that was taken apart still has a route table as long as nobody
has put something else in its place (`WorkingDocument.table`). Then an
action does the same to it as to a whole document; otherwise there is
no table before the step and none after it (`table_act`). Setting
something at the top leaves the table alone, or takes it away
(`table_set`).
-/
import ApiMount.Proofs.Document.Building
import ApiMount.Proofs.Document.Links
import ApiMount.Session

namespace ApiMount.Session

open Table

-- =============================================================== actions

/-- What an action that succeeds answers, and what it makes of a route
table. -/
inductive Acts (routes : Routes) : RouteAction → Answer → Routes → Prop where
  | skipped {template : ParameterTemplate} {route : String}
      {names : List Json} (absent : routes.get? route = none) :
    Acts routes (.inject template route names)
      (.report (.skipped route)) routes
  | refused {template : ParameterTemplate} {route : String}
      {names : List Json} {slot : Slot} {r : Reference}
      (found : routes.get? route = some slot)
      (points : slot.entry = .reference r) :
    Acts routes (.inject template route names)
      (.report (.refused route)) routes
  | injected {template : ParameterTemplate} {route : String}
      {names unfit : List Json} {fit : List Parameter} {slot : Slot}
      {i : PathItem} (found : routes.get? route = some slot)
      (inPlace : slot.entry = .item i)
      (built : template.buildAll names = .ok (fit, unfit)) :
    Acts routes (.inject template route names)
      (.report (.done route (fit.map (·.name)) unfit))
      (routes.update slot.number (.append fit))
  | mounted {base : String} :
    Acts routes (.mount base) (.keys (keys (mount base routes)))
      (mount base routes)
  | full {route : String} {slot : Slot} {v : Json}
      (found : routes.get? route = some slot)
      (written : slot.entry.writeAlone = .ok v) :
    Acts routes (.full route) (.text v.compact) routes
  | removed {route : String} {slot : Slot}
      (found : routes.get? route = some slot) :
    Acts routes (.remove route) (.keys (keys (without routes route)))
      (without routes route)
  | cleared : Acts routes .clear (.keys []) []
  | shared {route target : String} {slot : Slot}
      (found : routes.get? route = some slot) :
    Acts routes (.share route target)
      (.keys (keys (put routes target slot))) (put routes target slot)

section

variable {d after : Document} {a : RouteAction} {answer : Answer}

/-- A document in whose table something is found has a table of its
own. -/
theorem exists_paths_of_get? {route : String} {slot : Slot}
    (h : d.routes.get? route = some slot) :
    d.paths = some d.routes := by
  unfold Document.routes at h ⊢
  cases hd : d.paths with
  | none =>
      rw [hd] at h
      cases h
  | some routes => rfl

/-- Where a route is found there is a table of its own, so changing that
changes the routes. -/
theorem routes_map_of_get? {route : String} {slot : Slot}
    (h : d.routes.get? route = some slot) (f : Routes → Routes) :
    ({ d with paths := d.paths.map f } : Document).routes
      = f d.routes := by
  show (d.paths.map f).getD [] = _
  rw [exists_paths_of_get? h]
  rfl

/-- A route that is there is left out of the table. -/
theorem routes_remove {route : String} {slot : Slot}
    (h : d.routes.get? route = some slot) :
    (remove route d).routes = without d.routes route :=
  routes_map_of_get? h (without · route)

/-- Beside a route that is there, a slot is put into the table. -/
theorem routes_place {route : String} {slot : Slot}
    (h : d.routes.get? route = some slot) (target : String) (s : Slot) :
    (place target s d).routes = put d.routes target s :=
  routes_map_of_get? h (put · target s)

theorem routes_clear (d : Document) : (clear d).routes = [] := by
  unfold clear Document.routes
  cases d.paths <;> rfl

theorem keysOf_eq {routes : Routes} (h : after.routes = routes) :
    keysOf after = (.keys (keys routes), after) := by
  rw [← h]
  rfl

/-- An injection that answers acts on the table as injections do. -/
theorem acts_of_inject {template : ParameterTemplate} {route : String}
    {names : List Json} {report : InjectionReport}
    (h : d.inject template route names = .ok (report, after)) :
    Acts d.routes (.inject template route names) (.report report)
      after.routes := by
  rcases d.inject_cases template route names with
    ⟨absent, heq⟩ | ⟨r, points, heq⟩ | ⟨slot, i, found, inPlace, -, heq⟩
  · cases heq.symm.trans h
    exact .skipped (Option.map_eq_none_iff.1 absent)
  · cases heq.symm.trans h
    obtain ⟨slot, found, hr⟩ := Option.map_eq_some_iff.1 points
    exact .refused found hr
  · obtain ⟨made, hmade, hdone⟩ := map_eq_ok_iff.1 (heq.symm.trans h)
    cases hdone
    rw [routes_map_of_get? found]
    exact .injected found inPlace hmade

/-- On a whole document an action that succeeds does what `Acts` lists. -/
theorem acts_of_act (h : act d a = .ok (answer, after)) :
    Acts d.routes a answer after.routes := by
  -- each action is taken apart as far as it can fail; what is left is one
  -- constructor of `Acts`
  cases a with
  | inject template route names =>
      unfold act at h
      dsimp only at h
      cases hi : d.inject template route names with
      | error f =>
          rw [hi] at h
          cases h
      | ok pair =>
          rw [hi] at h
          cases h
          exact acts_of_inject hi
  | mount base =>
      cases h
      exact .mounted
  | full route =>
      unfold act entryAt Document.entry? at h
      dsimp only at h
      cases hg : d.routes.get? route with
      | none =>
          rw [hg] at h
          cases h
      | some slot =>
          rw [hg] at h
          dsimp only [Option.map_some] at h
          cases hw : slot.entry.writeAlone with
          | error f =>
              rw [hw] at h
              cases h
          | ok v =>
              rw [hw] at h
              cases h
              exact .full hg hw
  | remove route =>
      unfold act entryAt Document.entry? at h
      dsimp only at h
      cases hg : d.routes.get? route with
      | none =>
          rw [hg] at h
          cases h
      | some slot =>
          rw [hg] at h
          cases h
          show Acts _ _ (.keys (keys (remove route d).routes)) _
          rw [routes_remove hg]
          exact .removed hg
  | clear =>
      cases h
      show Acts _ _ (.keys (keys (clear d).routes)) _
      rw [routes_clear]
      exact .cleared
  | share route target =>
      unfold act at h
      dsimp only at h
      cases hg : d.routes.get? route with
      | none =>
          rw [hg] at h
          cases h
      | some slot =>
          rw [hg] at h
          cases h
          show Acts _ _ (.keys (keys (place target slot d).routes)) _
          rw [routes_place hg target slot]
          exact .shared hg

/-- What `Acts` lists is done on every whole document with that table. -/
theorem act_of_acts {routes : Routes} (h : Acts d.routes a answer routes) :
    ∃ after, act d a = .ok (answer, after) := by
  -- three of the actions look for the entry first
  have hentry {route : String} {slot : Slot}
      (found : d.routes.get? route = some slot) :
      entryAt d route = .ok slot.entry := by
    unfold entryAt Document.entry?
    rw [found]
    rfl
  cases h with
  | skipped absent =>
      exact ⟨d, by simp only [act, Document.inject, absent]⟩
  | refused found points =>
      exact ⟨d, by simp only [act, Document.inject, found, points]⟩
  | @injected _ _ _ _ fit slot _ found inPlace built =>
      exact ⟨{ d with
        paths := d.paths.map (·.update slot.number (.append fit)) },
        by simp only [act, Document.inject, found, inPlace, built]⟩
  | mounted => exact ⟨_, rfl⟩
  | full found written =>
      exact ⟨d, by simp only [act, hentry found, written]⟩
  | @removed route _ found =>
      exact ⟨remove route d,
        by simp only [act, hentry found, keysOf_eq (routes_remove found)]⟩
  | cleared =>
      exact ⟨clear d, by simp only [act, keysOf_eq (routes_clear d)]; rfl⟩
  | @shared _ target slot found =>
      exact ⟨place target slot d,
        by simp only [act, found, keysOf_eq (routes_place found target slot)]⟩

end

-- ======================================================= documents apart

namespace Parts

variable {p : Parts} {name : String}

/-- The route table of a document taken apart, if nothing else stands in
its place. -/
def table (p : Parts) : Routes :=
  match p.parts.get? routesName with
  | some (.routes r) => r
  | _ => []

/-- The route table that a part is. -/
def tableOf : Part → Routes
  | .routes r => r
  | .value _ => []

/-- Putting something in the place of the route table makes that the
table. -/
theorem table_put (p : Parts) (part : Part) :
    (p.put routesName part).table = tableOf part := by
  unfold table put
  dsimp only
  rw [get?_put, if_pos rfl]
  cases part <;> rfl

theorem table_put_of_ne (p : Parts) (h : name ≠ routesName)
    (part : Part) : (p.put name part).table = p.table := by
  unfold table put
  dsimp only
  rw [get?_put, if_neg h.symm]

theorem table_mark (p : Parts) (name : String) :
    (p.mark name).2.table = p.table := by
  unfold mark
  cases p.given.add name <;> rfl

/-- What is found in place of the route table is the table, or there is
none. -/
theorem tableOf_of_get {part : Part}
    (h : p.get routesName = .ok part) : tableOf part = p.table := by
  unfold get at h
  unfold table
  cases hp : p.parts.get? routesName with
  | some found =>
      rw [hp] at h
      cases h
      cases part <;> rfl
  | none =>
      rw [hp] at h
      cases hx : p.extras.get routesName with
      | error m =>
          rw [hx] at h
          cases h
      | ok x =>
          rw [hx] at h
          cases h
          rfl

/-- Where the route table cannot be had there are no routes. -/
theorem table_of_not_get {m : Misuse}
    (h : p.get routesName = .error m) : p.table = [] := by
  unfold get at h
  unfold table
  cases hp : p.parts.get? routesName with
  | some found =>
      rw [hp] at h
      cases h
  | none => rfl

/-- A table that is there is what is found in its place. -/
theorem get_of_table_ne_nil (h : p.table ≠ []) :
    p.get routesName = .ok (.routes p.table) := by
  unfold table at h ⊢
  unfold get
  cases hp : p.parts.get? routesName with
  | none =>
      rw [hp] at h
      exact absurd rfl h
  | some part =>
      rw [hp] at h
      cases part with
      | value x => exact absurd rfl h
      | routes r => rfl

/-- A table can only be found among the parts. -/
theorem has_of_get {routes : Routes}
    (h : p.get routesName = .ok (.routes routes)) :
    p.parts.has routesName = true := by
  unfold get at h
  cases hp : p.parts.get? routesName with
  | some found => exact has_iff.2 (mem_keys_of_get?_eq_some hp)
  | none =>
      rw [hp] at h
      cases hx : p.extras.get routesName with
      | error m =>
          rw [hx] at h
          cases h
      | ok x =>
          rw [hx] at h
          cases h

/-- What is put back is the table, unless a value is put back where there
was no table anyway. -/
theorem table_putBack (part : Part)
    (h : p.parts.has routesName = true ∨ ∃ x, part = .value x) :
    (p.putBack routesName part).table = tableOf part := by
  unfold putBack
  by_cases hhas : p.parts.has routesName = true
  · rw [if_pos hhas]
    exact table_put p part
  · obtain ⟨x, rfl⟩ := h.resolve_left hhas
    have habsent : p.parts.get? routesName = none :=
      has_eq_false_iff.1 (Bool.eq_false_iff.2 hhas)
    have hnone : p.table = [] := by
      unfold table
      rw [habsent]
    rw [if_neg hhas]
    cases p.extras with
    | table t => exact hnone
    | value y => exact hnone

/-- Setting the routes puts them in their place, if they may be set at
all. -/
theorem table_setField (p : Parts) (part : Part) :
    (∃ m, p.setField routesName part = (.error m, p))
      ∨ (p.setField routesName part).2.table = tableOf part := by
  unfold setField
  cases p.noSetter? routesName with
  | some m => exact .inl ⟨m, rfl⟩
  | none =>
      refine .inr ?_
      show ((p.put routesName part).mark routesName).2.table = _
      rw [table_mark, table_put]

/-- What is done with a value in place of the table gives a value
again, and injects nothing. -/
theorem actOn_value {x : Extra} {a : RouteAction} {answer : Answer}
    {part : Part} (h : actOn (.value x) a = .ok (answer, part)) :
    (∃ y, part = .value y)
      ∧ ∀ route injected unfit,
        answer ≠ .report (.done route injected unfit) := by
  unfold actOn at h
  split at h
  · next heq => cases heq
  -- on an object no action reports an injection
  · next members _ =>
    obtain ⟨⟨given, rest⟩, hobject, hpair⟩ := map_eq_ok_iff.1 h
    cases hpair
    refine ⟨⟨_, rfl⟩, fun route injected unfit => ?_⟩
    rintro rfl
    unfold actOnObject at hobject
    split at hobject
    · split at hobject <;> cases hobject
    · cases hobject
    · split at hobject <;> cases hobject
    · split at hobject <;> cases hobject
    · cases hobject
    · split at hobject <;> cases hobject
  · cases h
    exact ⟨⟨_, rfl⟩, fun _ _ _ hanswer => by cases hanswer⟩
  · cases h

end Parts

namespace WorkingDocument

/-- The route table of a working document, if it has one. -/
def table : WorkingDocument → Routes
  | .whole d => d.routes
  | .apart p => p.table

/-- What became of the route table of a document after an action: the
action was done, or it could not be done and nothing has changed, or
there was and is no table. Who sets the routes anew may have done so and
still fail, and may fail for what is no matter of the table. -/
inductive Acted (a : RouteAction) (before after : Routes) :
    Except StepFailure Answer → Prop where
  | done {answer : Answer} {result : Except StepFailure Answer}
      (acts : Acts before a answer after)
      (answered : result = .ok answer ∨ a.sets = true) :
    Acted a before after result
  | failed {f : StepFailure} (same : after = before)
      (stuck : a.sets = true ∨ before = []
        ∨ ∀ answer routes, ¬ Acts before a answer routes) :
    Acted a before after (.error f)
  | none {answer : Answer} (noneBefore : before = [])
      (noneAfter : after = [])
      (nothing : ∀ route injected unfit,
        answer ≠ .report (.done route injected unfit)) :
    Acted a before after (.ok answer)

/-- Nothing answers an action that fails. -/
theorem not_acts_of_error {d : Document} {a : RouteAction}
    {f : StepFailure} (h : Session.act d a = .error f) (answer : Answer)
    (routes : Routes) : ¬ Acts d.routes a answer routes := by
  intro hacts
  obtain ⟨after, hok⟩ := act_of_acts hacts
  rw [h] at hok
  cases hok

/-- Whatever a part is, what is done with it is done with its table. -/
theorem acted_of_actOn {part found : Part} {a : RouteAction}
    {answer : Answer} {result : Except StepFailure Answer}
    (h : Parts.actOn part a = .ok (answer, found))
    (hresult : result = .ok answer
      ∨ a.sets = true ∧ ∃ f, result = .error f) :
    Acted a (Parts.tableOf part) (Parts.tableOf found) result := by
  cases part with
  | routes r =>
      obtain ⟨⟨given, after⟩, hact, hpair⟩ := map_eq_ok_iff.1 h
      cases hpair
      exact .done (acts_of_act hact) (hresult.imp_right And.left)
  | value x =>
      obtain ⟨⟨y, rfl⟩, hnothing⟩ := Parts.actOn_value h
      rcases hresult with rfl | ⟨ha, f, rfl⟩
      · exact .none rfl rfl hnothing
      · exact .failed rfl (.inl ha)

/-- What cannot be done with a part is no action on its table, if it has
one. -/
theorem stuck_of_actOn {part : Part} {a : RouteAction} {f : StepFailure}
    (h : Parts.actOn part a = .error f) :
    Parts.tableOf part = []
      ∨ ∀ answer routes, ¬ Acts (Parts.tableOf part) a answer routes := by
  cases part with
  | value x => exact .inl rfl
  | routes r =>
      refine .inr ?_
      cases hact : Session.act (Parts.routesAlone r) a with
      | error g => exact not_acts_of_error hact
      | ok pair =>
          unfold Parts.actOn at h
          dsimp only at h
          rw [hact] at h
          cases h

/-- On parts too an action answers as it acts, or fails and leaves the
table. -/
theorem acted_apart (p : Parts) (a : RouteAction) :
    Acted a p.table (p.act a).2.table (p.act a).1 := by
  unfold Parts.act
  cases hp : p.get routesName with
  | error m => exact .failed rfl (.inr (.inl (Parts.table_of_not_get hp)))
  | ok part =>
      dsimp only
      rw [← Parts.tableOf_of_get hp]
      cases hact : Parts.actOn part a with
      | error f =>
          exact .failed (Parts.tableOf_of_get hp).symm
            (.inr (stuck_of_actOn hact))
      | ok pair =>
          obtain ⟨answer, found⟩ := pair
          dsimp only
          -- an action that sets puts the table back as a field, which may
          -- be refused; any other puts it back where it was
          by_cases ha : a.sets = true
          · rw [if_pos ha]
            rcases Parts.table_setField p found with ⟨m, hset⟩ | hset
            · rw [hset]
              exact .failed (Parts.tableOf_of_get hp).symm (.inl ha)
            · cases hq : p.setField routesName found with
              | mk result q =>
                  rw [hq] at hset
                  cases result with
                  | error m =>
                      show Acted a _ q.table _
                      rw [hset]
                      exact acted_of_actOn hact (.inr ⟨ha, _, rfl⟩)
                  | ok u =>
                      show Acted a _ q.table _
                      rw [hset]
                      exact acted_of_actOn hact (.inl rfl)
          · rw [if_neg ha, Parts.table_putBack]
            · exact acted_of_actOn hact (.inl rfl)
            · cases part with
              | routes r => exact .inl (Parts.has_of_get hp)
              | value x => exact .inr (Parts.actOn_value hact).1

/-- An action is done to the table of a working document, taken apart or
not, or it changes nothing. -/
theorem acted (w : WorkingDocument) (a : RouteAction) :
    Acted a w.table (w.act a).2.table (w.act a).1 := by
  cases w with
  | apart p => exact acted_apart p a
  | whole d =>
      unfold WorkingDocument.act
      dsimp only
      cases hact : Session.act d a with
      | error f => exact .failed rfl (.inr (.inr (not_acts_of_error hact)))
      | ok pair => exact .done (acts_of_act hact) (.inl rfl)

-- =============================================================== setting

/-- A part that is put under any name is put elsewhere, or it takes the
place of the table. -/
theorem table_putValue (p : Parts) (name : String) (value : Extra) :
    (p.put name (.value value)).table = p.table
      ∨ Meaning.ofName name = .routes
        ∧ (p.put name (.value value)).table = [] := by
  by_cases h : name = routesName
  · subst h
    exact .inr ⟨rfl, Parts.table_put p _⟩
  · exact .inl (Parts.table_put_of_ne p h _)

/-- Replacing all extras of parts leaves no table. -/
theorem table_replaceAll (p : Parts) (members : Table Json) :
    (p.replaceAll members).table = [] := by
  unfold Parts.table Parts.replaceAll
  dsimp only
  rw [get?_mapValues]
  cases Table.get? members routesName <;> rfl

/-- Setting what a name means takes the table away, or leaves it as it
is. -/
theorem table_setMeaning (p : Parts) (name : String) (value : Extra) :
    (p.setMeaning name value).2.table = p.table
      ∨ (Meaning.ofName name = .routes ∨ Meaning.ofName name = .parts)
        ∧ (p.setMeaning name value).2.table = [] := by
  -- only two meanings reach the table: its own name, and that of all
  -- parts
  have hput := table_putValue p name value
  unfold Parts.setMeaning
  cases hname : Meaning.ofName name with
  | version | routes =>
      dsimp only
      rw [Parts.table_mark]
      rw [hname] at hput
      exact hput.imp_right fun h => ⟨.inl h.1, h.2⟩
  | tool | aside =>
      rw [hname] at hput
      exact hput.imp_right fun h => ⟨.inl h.1, h.2⟩
  | parts =>
      cases value with
      | unwritable => exact .inl rfl
      | json v =>
          cases v with
          | obj members => exact .inr ⟨.inr rfl, table_replaceAll p members⟩
          | null | bool _ | int _ | float _ | str _ | arr _ =>
              exact .inl rfl
  | extras | given => exact .inl rfl
  | extra =>
      cases p.extras with
      | value y => exact .inl rfl
      | table t =>
          dsimp only
          rw [Parts.table_mark]
          exact .inl rfl

/-- Setting a part leaves the table, or takes it away where the part is the
table or holds it. -/
theorem table_setApart (p : Parts) (name : String) (value : Extra) :
    (setApart name value p).2.table = p.table
      ∨ (Meaning.ofName name = .routes ∨ Meaning.ofName name = .parts)
        ∧ (setApart name value p).2.table = [] := by
  have hset : (p.set name value).2.table = p.table
      ∨ (Meaning.ofName name = .routes ∨ Meaning.ofName name = .parts)
        ∧ (p.set name value).2.table = [] := by
    unfold Parts.set
    cases p.noSetter? name with
    | some m => exact .inl rfl
    | none =>
        cases refused? name value with
        | some m => exact .inl rfl
        | none => exact table_setMeaning p name value
  unfold setApart
  cases hq : p.set name value with
  | mk result q =>
      rw [hq] at hset
      cases result with
      | error m => exact hset
      | ok u =>
          dsimp only
          cases q.extras.elements with
          | error m => exact hset
          | ok items => exact hset

/-- Setting a name takes the table away, or leaves it as it is. -/
theorem table_set (w : WorkingDocument) (name : String) (value : Extra) :
    (w.set name value).2.table = w.table
      ∨ (Meaning.ofName name = .routes ∨ Meaning.ofName name = .parts)
        ∧ (w.set name value).2.table = [] := by
  cases w with
  | apart p => exact table_setApart p name value
  | whole d =>
      -- what a whole document cannot take in place is set on its parts
      have hapart := table_setApart (.ofDocument d) name value
      unfold WorkingDocument.set
      dsimp only
      cases refused? name value with
      | some m => exact .inl rfl
      | none =>
          cases hwhole : setWhole? name value d with
          | none => exact hapart
          | some after =>
              unfold setWhole? at hwhole
              split at hwhole
              · cases hwhole
                exact .inl rfl
              · next hname =>
                cases hwhole
                exact .inr ⟨.inl hname, rfl⟩
              · cases hwhole
                exact .inl rfl
              · cases hwhole
                exact .inl rfl
              · cases hwhole

end WorkingDocument

end ApiMount.Session
