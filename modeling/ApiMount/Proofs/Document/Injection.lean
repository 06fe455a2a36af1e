/-
Injecting the standard parameter into a fresh document. Every key of it
has an entry of its own, so the parameters show under the designated key
alone: the route table that comes out is fresh again and differs by one
adjusted entry (`Document.inject_withEntries`). Where the key is missing
or holds a reference, adjusting changes nothing, and neither does
injecting. Appending to an entry twice is appending once
(`PathEntry.append_append`).
-/
import ApiMount.Proofs.Document.Codec
import ApiMount.Proofs.Document.Links

namespace ApiMount

open Json Table

-- ========================================================== parameters

/-- The parameter that the standard template makes for a name. -/
def Parameter.mandatory (name : String) : Parameter :=
  { location := .query
    name
    required := some true
    schema := some (some [("type", .str "string")])
    extras := [] }

theorem ParameterTemplate.build_standard (name : String) :
    standard.build (.str name) = .ok (.parameter (.mandatory name)) :=
  rfl

/-- The standard template builds the mandatory parameter of every name. -/
theorem ParameterTemplate.buildAll_standard (names : List String) :
    standard.buildAll (names.map .str)
      = .ok (names.map Parameter.mandatory, []) := by
  induction names with
  | nil => rfl
  | cons name names ih =>
      rw [List.map_cons, buildAll, build_standard]
      dsimp only
      rw [ih]
      rfl

-- =========================================================== appending

/-- The parameters are appended behind those that are there, and no extra
changes. -/
theorem PathItem.getD_append (i : PathItem) (ps : List Parameter) :
    (i.append ps).parameters.getD []
        = i.parameters.getD [] ++ ps.map .parameter
      ∧ (i.append ps).extras = i.extras := by
  unfold PathItem.append
  cases ps with
  | nil => simp
  | cons p ps => simp

/-- A list is there afterwards if it was there, or if something was
appended. -/
theorem PathItem.parameters_append_eq_none_iff {i : PathItem}
    {ps : List Parameter} :
    (i.append ps).parameters = none ↔ i.parameters = none ∧ ps = [] := by
  unfold PathItem.append
  cases ps with
  | nil => simp
  | cons p ps => simp

/-- Appending twice is appending both lists in turn. -/
theorem PathItem.append_append (i : PathItem) (ps qs : List Parameter) :
    (i.append ps).append qs = i.append (ps ++ qs) := by
  cases ps with
  | nil => rfl
  | cons p ps =>
      cases qs with
      | nil => rw [List.append_nil]; rfl
      | cons q qs =>
          show ({ i with parameters := some _ } : PathItem)
            = { i with parameters := some _ }
          rw [List.map_append, ← List.append_assoc]
          rfl

theorem PathEntry.append_append (e : PathEntry)
    (ps qs : List Parameter) :
    (e.append ps).append qs = e.append (ps ++ qs) := by
  cases e with
  | reference r => rfl
  | item i => exact congrArg item (i.append_append ps qs)

/-- Nothing to append, and an entry stays as it is. -/
theorem PathEntry.append_nil (e : PathEntry) : e.append [] = e := by
  cases e <;> rfl

-- ============================================================== routes

namespace Routes

/-- An update looks at each slot by its number. -/
theorem entries_update_cons (n : Nat) (f : PathEntry → PathEntry)
    (key : String) (slot : Slot) (routes : Routes) :
    (update n f ((key, slot) :: routes)).entries
      = (key, if slot.number = n then f slot.entry else slot.entry)
        :: (update n f routes).entries := by
  show (key, (if slot.number = n then { slot with entry := f slot.entry }
    else slot).entry) :: entries (update n f routes) = _
  by_cases h : slot.number = n
  · rw [if_pos h, if_pos h]
  · rw [if_neg h, if_neg h]

/-- In fresh slots, the entries of other numbers stay. -/
theorem entries_update_of_lt {number n : Nat}
    {f : PathEntry → PathEntry} {t : Table PathEntry} (h : n < number) :
    (update n f (fresh number t)).entries = t := by
  induction t generalizing number with
  | nil => rfl
  | cons head rest ih =>
      obtain ⟨key, entry⟩ := head
      rw [fresh, entries_update_cons, ih (Nat.lt_succ_of_lt h),
        if_neg (Nat.ne_of_gt h)]

/-- In fresh slots, changing the entry that a key holds changes what is
under that key only. -/
theorem entries_update_fresh {number : Nat}
    {f : PathEntry → PathEntry} {t : Table PathEntry} {key : String}
    {slot : Slot} (hn : (keys t).Nodup)
    (h : get? (fresh number t) key = some slot) :
    (update slot.number f (fresh number t)).entries = adjust key f t := by
  -- the number that was found stands nowhere else, and the key neither
  induction t generalizing number with
  | nil => cases h
  | cons head rest ih =>
      obtain ⟨k, entry⟩ := head
      rw [keys_cons, List.nodup_cons] at hn
      rw [fresh, get?_cons] at h
      rw [fresh, entries_update_cons]
      by_cases hk : key = k
      · subst hk
        rw [if_pos rfl] at h
        cases h
        have hsame : adjust key f rest = rest :=
          adjust_eq_self fun value hmem =>
            absurd (mem_keys_of_mem hmem) hn.1
        rw [adjust_cons_self, hsame, if_pos rfl,
          entries_update_of_lt (Nat.lt_succ_self number)]
      · rw [if_neg hk] at h
        have hlt : number < slot.number :=
          le_of_mem_fresh (mem_of_get?_eq_some h)
        rw [adjust_cons_ne fun e => hk e.symm, ih hn.2 h,
          if_neg (Nat.ne_of_lt hlt)]

/-- Changing an entry leaves fresh slots fresh. -/
theorem update_fresh (n : Nat) (f : PathEntry → PathEntry)
    (number : Nat) (t : Table PathEntry) :
    update n f (fresh number t)
      = fresh number (update n f (fresh number t)).entries := by
  induction t generalizing number with
  | nil => rfl
  | cons head rest ih =>
      obtain ⟨key, entry⟩ := head
      rw [fresh, entries_update_cons, fresh, ← ih]
      show (key, if number = n then ⟨number, f entry⟩
        else ⟨number, entry⟩) :: update n f (fresh (number + 1) rest) = _
      by_cases h : number = n
      · rw [if_pos h, if_pos h]
      · rw [if_neg h, if_neg h]

/-- What is found in fresh slots is what is in the table. -/
theorem get?_fresh (number : Nat) (t : Table PathEntry) (key : String) :
    (get? (fresh number t) key).map Slot.entry = get? t key := by
  rw [← get?_mapValues, mapValues_fresh]

end Routes

-- =========================================================== documents

namespace Document

variable {d : Document} {t : Table PathEntry}

/-- A document with other entries in its route table, each in a slot of
its own; without a table it stays as it is. -/
def withEntries (d : Document) (t : Table PathEntry) : Document :=
  { d with paths := d.paths.map fun _ => Routes.fresh 0 t }

/-- A document without a route table of its own takes no entries. -/
theorem withEntries_of_none (h : d.paths = none) : d.withEntries t = d := by
  unfold withEntries
  rw [h, Option.map_none, ← h]

/-- The entries are put into fresh slots. -/
theorem routes_withEntries (h : d.paths = none → t = []) :
    (d.withEntries t).routes = Routes.fresh 0 t := by
  unfold withEntries routes
  cases hpaths : d.paths with
  | none =>
      rw [h hpaths]
      rfl
  | some old => rfl

/-- A document whose slots are fresh is made of its entries. -/
theorem withEntries_of_fresh (hr : d.routes = Routes.fresh 0 t) :
    d.withEntries t = d := by
  cases hpaths : d.paths with
  | none => exact withEntries_of_none hpaths
  | some old =>
      unfold routes at hr
      rw [hpaths, Option.getD_some] at hr
      unfold withEntries
      rw [hpaths, Option.map_some, ← hr, ← hpaths]

/-- Into fresh slots the parameters are injected at the route, and where
it is missing or a reference, nowhere. -/
theorem inject_withEntries (d : Document) (hn : (keys t).Nodup)
    (route : String) (names : List String) :
    ∃ report,
      (d.withEntries t).inject .standard route (names.map .str)
        = .ok (report, d.withEntries
          (adjust route (.append (names.map .mandatory)) t)) := by
  cases hpaths : d.paths with
  | none =>
      rw [withEntries_of_none hpaths, withEntries_of_none hpaths]
      unfold Document.inject routes
      rw [hpaths]
      exact ⟨_, rfl⟩
  | some old =>
      have hroutes : (d.withEntries t).routes = Routes.fresh 0 t := by
        refine routes_withEntries fun hnone => ?_
        rw [hpaths] at hnone
        cases hnone
      have hentry := Routes.get?_fresh 0 t route
      -- only what is found under the route is adjusted
      have hsame {f : PathEntry → PathEntry}
          (h : ∀ e, get? t route = some e → f e = e) :
          adjust route f t = t :=
        adjust_eq_self fun e he => h e ((get?_eq_some_iff hn).2 he)
      unfold Document.inject
      rw [hroutes]
      cases hg : get? (Routes.fresh 0 t) route with
      | none =>
          rw [hg] at hentry
          refine ⟨_, congrArg Except.ok (Prod.ext rfl ?_)⟩
          dsimp only
          rw [hsame]
          intro e he
          rw [← hentry] at he
          cases he
      | some slot =>
          rw [hg] at hentry
          dsimp only
          cases he : slot.entry with
          | reference r =>
              refine ⟨_, congrArg Except.ok (Prod.ext rfl ?_)⟩
              dsimp only
              rw [hsame]
              intro e hfound
              rw [← hentry] at hfound
              cases hfound
              rw [he]
              rfl
          | item i =>
              dsimp only
              rw [ParameterTemplate.buildAll_standard]
              refine ⟨_, congrArg Except.ok (Prod.ext rfl ?_)⟩
              unfold withEntries
              rw [hpaths, Option.map_some, Option.map_some,
                Option.map_some, Routes.update_fresh,
                Routes.entries_update_fresh hn hg]

/-- Into a fresh document the parameters are injected at the designated
route, and where it is missing or a reference, nowhere. -/
theorem inject_standard (hr : d.routes = Routes.fresh 0 t)
    (hn : (keys t).Nodup) (names : List String) :
    ∃ report after,
      d.inject .standard designatedRoute (names.map .str)
        = .ok (report, after)
      ∧ after.version = d.version ∧ after.extras = d.extras
      ∧ after.routes.entries = adjust designatedRoute
        (.append (names.map .mandatory)) t := by
  obtain ⟨report, hinject⟩ :=
    inject_withEntries d hn designatedRoute names
  rw [withEntries_of_fresh hr] at hinject
  refine ⟨report, _, hinject, rfl, rfl, ?_⟩
  rw [routes_withEntries]
  · exact Routes.mapValues_fresh 0 _
  · intro hnone
    unfold routes at hr
    rw [hnone] at hr
    cases t with
    | nil => rfl
    | cons head rest => cases hr

end Document

end ApiMount
