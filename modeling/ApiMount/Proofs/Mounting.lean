/-
Mounting renames, and loses nothing (`Mounting.run_renames`). A path in
front of keys that differ leaves them different, so no turn of the loop
finds its key taken: what is carried through the loop is that the entries
gone through stand under their new keys, in order, with one record for
each (`Mounting.foldl_turn`). What the loop makes is thus the table that
`Table.mount` says (`Mounting.run_eq`, `Document.mount_eq_run`).

Since a key that was not there does not come about, and entries are moved
and not copied, it is all one whether parameters are injected at a route
or, after mounting, at the key that the route has then
(`Document.inject_mount_comm`).
-/
import ApiMount.Mounting
import ApiMount.Proofs.Document.Effect

namespace ApiMount

open Table

namespace Mounting

variable {α : Type _} {t : Table α} {base key : String} {value : α}

-- ============================================================= the loop

/-- What was logged of entries under the given keys. -/
def records (base : String) (keys : List String) : List Log.Record :=
  keys.map fun key => record key (base ++ key)

/-- A turn that finds its key free puts the entry last. -/
theorem turn_of_not_mem {m : Mounting α} (h : base ++ key ∉ keys m.moved) :
    turn base m (key, value)
      = ⟨m.source, m.moved ++ [(base ++ key, value)],
        m.log ++ [record key (base ++ key)]⟩ := by
  unfold turn
  dsimp only
  rw [put_of_not_mem value h]

/-- A key that was not there is not there under the path. -/
theorem not_mem_keys_mount (h : key ∉ keys t) (base : String) :
    base ++ key ∉ keys (mount base t) := by
  rw [← get?_eq_none_iff, get?_mount, get?_eq_none_iff]
  exact h

/-- Whatever has been gone through stands under its new keys, and the
rest follows it there. -/
theorem foldl_turn (base : String) (source gone rest : Table α)
    (hn : (keys (gone ++ rest)).Nodup) :
    rest.foldl (turn base)
        ⟨source, mount base gone, records base (keys gone)⟩
      = ⟨source, mount base (gone ++ rest),
        records base (keys (gone ++ rest))⟩ := by
  -- what a turn puts last is the end of what has been gone through, so
  -- the induction hypothesis is for one entry more of that
  induction rest generalizing gone with
  | nil => rw [List.append_nil]; rfl
  | cons member rest ih =>
      obtain ⟨key, value⟩ := member
      have hkey : key ∉ keys gone := by
        rw [keys_append, keys_cons] at hn
        exact fun hmem => (List.nodup_append.1 hn).2.2 key hmem key
          List.mem_cons_self rfl
      have hsplit : gone ++ (key, value) :: rest
          = (gone ++ [(key, value)]) ++ rest := List.append_cons _ _ _
      rw [hsplit] at hn ⊢
      rw [List.foldl_cons, turn_of_not_mem (not_mem_keys_mount hkey base),
        ← ih _ hn]
      simp only [mount, records, keys_append, List.map_append, keys_cons,
        keys_nil, List.map_cons, List.map_nil]

/-- The loop mounts the table and says so of every key, where no key stands
twice. -/
theorem run_eq (hn : (keys t).Nodup) (base : String) :
    run base t = ⟨t, mount base t, records base (keys t)⟩ :=
  foldl_turn base t [] t hn

-- ============================================================= renaming

/-- What mounting under a path does to a table: the entries have the path
in front of their keys, in order and each under a key of its own. No
other key comes about, the table that was gone through is as it was, and
there is one record for each entry. -/
structure Renames (base : String) (t : Table α) (m : Mounting α) :
    Prop where
  source : m.source = t
  keys : keys m.moved = (keys t).map (base ++ ·)
  distinct : (Table.keys m.moved).Nodup
  found : ∀ key, get? m.moved (base ++ key) = get? t key
  nothingElse : ∀ key value, get? m.moved key = some value →
    ∃ old, key = base ++ old ∧ get? t old = some value
  log : m.log
    = (Table.keys t).map fun key => record key (base ++ key)

/-- Mounting renames every entry of a table and loses none. Under one
path and then under another is under both at once, and under the empty
path is nowhere else. -/
theorem run_renames (hn : (keys t).Nodup) (base : String) :
    Renames base t (run base t)
      ∧ (∀ outer,
        (run outer (run base t).moved).moved = (run (outer ++ base) t).moved)
      ∧ (run "" t).moved = t := by
  have hmoved : (keys (mount base t)).Nodup := nodup_keys_mount hn
  refine ⟨?_, fun outer => ?_, ?_⟩
  · rw [run_eq hn]
    refine ⟨rfl, keys_mount base t, hmoved, fun key => get?_mount base key t,
      ?_, rfl⟩
    intro key value hfound
    obtain ⟨old, rfl⟩ :=
      exists_of_mem_keys_mount (mem_keys_of_get?_eq_some hfound)
    exact ⟨old, rfl, (get?_mount base old t).symm.trans hfound⟩
  · rw [run_eq hn, run_eq hmoved, run_eq hn]
    exact mount_mount outer base t
  · rw [run_eq hn]
    exact mount_empty t

/-- Keys that begin with the path already, one of them the path itself,
and an empty one. -/
theorem run_renames_nested :
    let t : Table Nat := [("/v1/v1", 1), ("", 2), ("/v1", 3)]
    (keys t).Nodup ∧ Renames "/v1" t (run "/v1" t)
      ∧ (run "/v1" t).moved = [("/v1/v1/v1", 1), ("/v1", 2), ("/v1/v1", 3)]
      ∧ (run "/a" (run "/v1" t).moved).moved = (run "/a/v1" t).moved
      ∧ (run "" t).moved = t := by
  intro t
  have hn : (keys t).Nodup := by decide
  obtain ⟨hrenames, hagain, hempty⟩ := run_renames hn "/v1"
  exact ⟨hn, hrenames, rfl, hagain "/a", hempty⟩

end Mounting

-- ============================================================ documents

namespace Document

/-- A document is mounted, and what is logged of it, as the loop does
it. -/
theorem mount_eq_run {d : Document} (hn : (keys d.routes).Nodup)
    (base : String) :
    d.mount base
        = { d with paths := some (Mounting.run base d.routes).moved }
      ∧ Render.mountLog base d.routeKeys
        = (Mounting.run base d.routes).log := by
  rw [Mounting.run_eq hn]
  refine ⟨rfl, ?_⟩
  unfold Render.mountLog mountMessages Mounting.records
  rw [List.map_map]
  refine List.map_congr_left fun key _ => ?_
  unfold Mounting.record
  simp only [Function.comp_apply, String.append_assoc]

end Document

-- ============================================================ injecting

/-- The report of the same injection at another route. -/
def InjectionReport.withRoute (route : String) :
    InjectionReport → InjectionReport
  | .skipped _ => .skipped route
  | .refused _ => .refused route
  | .done _ injected unfit => .done route injected unfit

/-- Only the route that it names tells such a report from the first. -/
theorem InjectionReport.toJson_withRoute (report : InjectionReport)
    (route : String) :
    ∃ ms, report.toJson = .obj ms
      ∧ (report.withRoute route).toJson
        = .obj (put ms "route_key" (.str route)) := by
  cases report <;> exact ⟨_, rfl, rfl⟩

namespace Document

variable {d : Document}

/-- Changing entries and moving them do not touch each other. -/
theorem mount_update (d : Document) (n : Nat)
    (f : PathEntry → PathEntry) (base : String) :
    ({ d with paths := d.paths.map (·.update n f) } : Document).mount base
      = { d.mount base with
          paths := (d.mount base).paths.map (·.update n f) } := by
  unfold mount routes
  cases hpaths : d.paths with
  | none => rfl
  | some routes =>
      have hroutes : (routes.update n f).mount base
          = Routes.update n f (routes.mount base) :=
        (mapValues_mount _ base routes).symm
      simp only [Option.map_some, Option.getD_some, hroutes]

/-- Injecting at a route and mounting is mounting and injecting at the
key that the route has then, also where it fails. -/
theorem inject_mount (d : Document) (template : ParameterTemplate)
    (base route : String) (names : List Json) :
    (d.mount base).inject template (base ++ route) names
      = (d.inject template route names).map fun done =>
        (done.1.withRoute (base ++ route), done.2.mount base) := by
  have hget : (d.mount base).routes.get? (base ++ route)
      = d.routes.get? route := get?_mount base route d.routes
  unfold Document.inject
  rw [hget]
  cases d.routes.get? route with
  | none => rfl
  | some slot =>
      dsimp only
      cases slot.entry with
      | reference r => rfl
      | item i =>
          dsimp only
          cases template.buildAll names with
          | error f => rfl
          | ok made =>
              obtain ⟨fit, unfit⟩ := made
              exact congrArg (fun after => Except.ok (_, after))
                (d.mount_update slot.number (.append fit) base).symm

/-- The standard parameter is injected, or there is a report why not. -/
theorem exists_inject_standard (d : Document) (route : String)
    (names : List String) :
    ∃ report after,
      d.inject .standard route (names.map .str) = .ok (report, after)
        ∧ report.withRoute route = report := by
  rcases d.inject_cases .standard route (names.map .str) with
    ⟨-, h⟩ | ⟨r, -, h⟩ | ⟨slot, i, -, -, -, h⟩
  · exact ⟨_, _, h, rfl⟩
  · exact ⟨_, _, h, rfl⟩
  · rw [ParameterTemplate.buildAll_standard] at h
    exact ⟨_, _, h, rfl⟩

/-- It is all one whether a document is mounted before or after an
injection: what comes out is the same document, and the reports differ
in the route that they name. The standard parameter is never refused. Of
a report's members, the route is that under `route_key` alone. -/
theorem inject_mount_comm (d : Document) (base route : String) :
    (∀ template names,
        (d.mount base).inject template (base ++ route) names
          = (d.inject template route names).map fun done =>
            (done.1.withRoute (base ++ route), done.2.mount base))
      ∧ ∀ names : List String, ∃ report after,
        d.inject .standard route (names.map .str) = .ok (report, after)
          ∧ (d.mount base).inject .standard (base ++ route)
              (names.map .str)
            = .ok (report.withRoute (base ++ route), after.mount base)
          ∧ report.withRoute route = report
          ∧ ∃ ms, report.toJson = .obj ms
            ∧ (report.withRoute (base ++ route)).toJson
              = .obj (put ms "route_key" (.str (base ++ route))) := by
  refine ⟨fun template names => d.inject_mount template base route names,
    fun names => ?_⟩
  obtain ⟨report, after, h, hroute⟩ := d.exists_inject_standard route names
  refine ⟨report, after, h, ?_, hroute,
    report.toJson_withRoute (base ++ route)⟩
  rw [inject_mount, h]
  rfl

end Document

end ApiMount
