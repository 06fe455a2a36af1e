/-
Nothing is invented and nothing dropped (`textOf_sameDocument`): a
document that was read is written as the value that it was read from,
up to the order of the keys of the modelled objects. `SameDocument` says
this level by level. At each level the two objects have the same keys,
their fields agree, and what is no field stands in the same order with
the same values (`SameObject`).

A modelled object is written as the members that its fields make, with
the members behind them that no field has taken. So one lemma compares
such an object with the one it was read from (`sameObject_append`), and
what is left for each level is that its fields are written as they were
read.
-/
import ApiMount.Proofs.Document.Acceptance
import ApiMount.Proofs.Document.Size
import ApiMount.Proofs.Json.Limits

namespace ApiMount

open Json Table

-- ========================================================== same objects

/-- Two objects with the same keys. Under the given names they hold
values that are related, the other members are equal and in the same
order. -/
structure SameObject (names : List String)
    (related : String → Json → Json → Prop) (ms ns : Table Json) :
    Prop where
  keys : (keys ms).Perm (keys ns)
  fields : ∀ name ∈ names,
    Option.Rel (related name) (get? ms name) (get? ns name)
  extras : (ms.filter fun m => !names.contains m.1)
    = ns.filter fun m => !names.contains m.1

/-- The same parameter: a reference has one field, another parameter has
four. -/
def SameParameter (ps qs : Table Json) : Prop :=
  if isReference ps then SameObject ["$ref"] (fun _ => Eq) ps qs
  else SameObject ["name", "required", "schema", "in"] (fun _ => Eq) ps qs

/-- Two lists of the same parameters. -/
def SameParameters (v w : Json) : Prop :=
  ∃ items items', v = .arr items ∧ w = .arr items'
    ∧ List.Forall₂ (fun item item' => ∃ ps qs, item = .obj ps
      ∧ item' = .obj qs ∧ SameParameter ps qs) items items'

/-- The same route. -/
def SameRoute (ms ns : Table Json) : Prop :=
  if isReference ms then SameObject ["$ref"] (fun _ => Eq) ms ns
  else SameObject ["parameters"] (fun _ => SameParameters) ms ns

/-- Two tables of the same routes in the same order. -/
def SameRoutes (v w : Json) : Prop :=
  ∃ rms rms', v = .obj rms ∧ w = .obj rms'
    ∧ List.Forall₂ (fun member member' => member.1 = member'.1
      ∧ ∃ ms ns, member.2 = .obj ms ∧ member'.2 = .obj ns
        ∧ SameRoute ms ns) rms rms'

/-- The same document. -/
def SameDocument (v w : Json) : Prop :=
  ∃ ms ns, v = .obj ms ∧ w = .obj ns
    ∧ SameObject ["openapi", "paths"]
      (fun name => if name = "paths" then SameRoutes else Eq) ms ns

-- ==================================================== fields and extras

section

variable {ms fields : Table Json} {names : List String}
  {related : String → Json → Json → Prop}

theorem eq_none_iff_of_rel {α β : Type} {R : α → β → Prop} {a : Option α}
    {b : Option β} (h : Option.Rel R a b) : a = none ↔ b = none := by
  cases h with
  | none => exact iff_of_true rfl rfl
  | some _ => exact iff_of_false nofun nofun

theorem rel_of_eq {α : Type} {R : α → α → Prop} {a b : Option α}
    (hR : ∀ x, R x x) (h : a = b) : Option.Rel R a b := by
  subst h
  cases a with
  | none => exact .none
  | some x => exact .some (hR x)

theorem rel_eq {α : Type} {a b : Option α} (h : a = b) :
    Option.Rel Eq a b := rel_of_eq (fun _ => rfl) h

/-- What is written of a field is what it was read from. -/
theorem map_eq_of_rel {α β : Type} {R : α → β → Prop} {f : α → β}
    {a : Option α} {b : Option β} (h : Option.Rel R a b)
    (hf : ∀ x y, b = some y → R x y → f x = y) : a.map f = b := by
  cases h with
  | none => rfl
  | some hxy => exact congrArg some (hf _ _ rfl hxy)

/-- Fields in front of what no field has taken make the same object if
they agree with the fields that were there. -/
theorem sameObject_append (hn : (keys ms).Nodup)
    (hfields : (keys fields).Nodup)
    (hnames : ∀ key ∈ keys fields, key ∈ names)
    (hrel : ∀ name ∈ names,
      Option.Rel (related name) (get? ms name) (get? fields name)) :
    SameObject names related ms
      (fields ++ ms.filter fun m => !names.contains m.1) := by
  -- a name is written exactly where it was read
  have hfound (name : String) (hname : name ∈ names) :
      name ∈ keys ms ↔ name ∈ keys fields := by
    rw [← not_iff_not, ← get?_eq_none_iff, ← get?_eq_none_iff]
    exact eq_none_iff_of_rel (hrel name hname)
  refine ⟨?_, ?_, ?_⟩
  · refine (List.perm_ext_iff_of_nodup hn ?_).2 fun key => ?_
    · rw [keys_append]
      refine List.nodup_append.2
        ⟨hfields, nodup_keys_filter _ hn, ?_⟩
      rintro key hkey _ hextra rfl
      exact (mem_keys_rest.1 hextra).2 (hnames key hkey)
    · rw [keys_append, List.mem_append, mem_keys_rest]
      by_cases hname : key ∈ names
      · rw [hfound key hname]
        tauto
      · have hnot : key ∉ keys fields := fun h => hname (hnames key h)
        tauto
  -- no extra hides a field
  · intro name hname
    have hnone : name ∉ keys (ms.filter fun m => !names.contains m.1) :=
      fun h => (mem_keys_rest.1 h).2 hname
    rw [get?_append, get?_eq_none_iff.2 hnone, Option.or_none]
    exact hrel name hname
  -- leaving the fields out twice is leaving them out once
  · rw [List.filter_append, filter_fields hnames, List.nil_append,
      List.filter_filter]
    simp only [Bool.and_self]

end

-- ========================================================== parameters

/-- A parameter that is written as it was read: it uses no second name,
and its flag is a boolean. -/
structure IsPlain (ps : Table Json) : Prop where
  first : UsesFirstNames ps
  flag : isReference ps = false →
    ∀ v, get? ps "required" = some v → ∃ b, v = .bool b

section

variable {ms : Table Json}

/-- A reference that uses the first name of its target is written with what
it was read from. -/
theorem Reference.IsFrom.same {r : Reference} (h : r.IsFrom ms)
    (hd : (Json.obj ms).Distinct)
    (hfirst : "$ref" ∈ keys ms ∨ "ref" ∉ keys ms) :
    isReference ms = true
      ∧ SameObject ["$ref"] (fun _ => Eq) ms (r.fields ++ r.extras) := by
  have hn := (distinct_obj_iff.1 hd).1
  obtain ⟨htarget, hextras⟩ := (isFrom_iff hn hfirst).1 h
  refine ⟨has_iff.2 (mem_keys_of_get?_eq_some htarget), ?_⟩
  rw [hextras, extrasOf_of_distinct hd]
  refine sameObject_append hn ?_ (fun _ hkey => hkey) ?_
  · show ["$ref"].Nodup
    decide
  · intro name hname
    cases List.mem_singleton.1 hname
    exact rel_eq htarget

/-- The fields of a parameter take its members under their names. -/
theorem Parameter.mem_taken_iff
    (hfirst : "schema" ∈ keys ms ∨ "schema_" ∉ keys ms)
    {key : String} (hkey : key ∈ keys ms) :
    key ∈ taken ms ↔ key ∈ ["name", "required", "schema", "in"] := by
  unfold taken
  rw [field?_first hfirst, List.mem_append]
  cases hs : lastOf ms "schema" with
  | none =>
      have hne : key ≠ "schema" := by
        rintro rfl
        exact lastOf_eq_none_iff.1 hs hkey
      simp [hne]
  | some v =>
      simp
      tauto

section

variable {p : Parameter} (h : p.IsFrom ms)
  (hd : (Json.obj ms).Distinct)
  (hfirst : "schema" ∈ keys ms ∨ "schema_" ∉ keys ms)

include h hd

/-- A boolean flag is written as it was. -/
theorem Parameter.IsFrom.map_required
    (hflag : ∀ v, get? ms "required" = some v → ∃ b, v = .bool b) :
    p.required.map .bool = get? ms "required" := by
  have hn := (distinct_obj_iff.1 hd).1
  rw [← lastOf_eq_get? hn]
  refine map_eq_of_rel h.required fun b v hv hb => ?_
  rw [lastOf_eq_get? hn] at hv
  obtain ⟨c, rfl⟩ := hflag v hv
  cases hb
  rfl

include hfirst

/-- The schema is written as it stood. -/
theorem Parameter.IsFrom.map_schema :
    p.schema.map schemaJson = get? ms "schema" := by
  obtain ⟨hn, hdistinct⟩ := distinct_obj_iff.1 hd
  have hrel := h.schema
  rw [field?_first hfirst, lastOf_eq_get? hn, Option.map_map] at hrel
  have hfound := Option.map_id' (x := get? ms "schema")
  refine map_eq_of_rel (hfound ▸ hrel) fun s v hv hs => ?_
  exact hs.schemaJson_eq (hdistinct _ (mem_of_get?_eq_some hv))

/-- The extras of a parameter are what its four fields leave. -/
theorem Parameter.IsFrom.extras_eq :
    p.extras = ms.filter fun m =>
      !(["name", "required", "schema", "in"].contains m.1) := by
  rw [h.extras, extrasOf_of_distinct hd]
  refine List.filter_congr fun member hmember => ?_
  have hiff := Parameter.mem_taken_iff hfirst (mem_keys_of_mem hmember)
  rw [Bool.not_inj_iff, Bool.eq_iff_iff, List.contains_iff_mem, hiff,
    List.contains_iff_mem]

/-- A parameter is written as the object that it was read from, if its
flag counts as the one that was there. -/
theorem Parameter.IsFrom.sameObject
    (related : String → Json → Json → Prop)
    (hrefl : ∀ name v, related name v v)
    (hflag : Option.Rel (related "required") (get? ms "required")
      (p.required.map .bool)) :
    SameObject ["name", "required", "schema", "in"] related ms
      (p.fields ++ p.extras) := by
  have hn := (distinct_obj_iff.1 hd).1
  have hk := keys_fields p
  obtain ⟨hname', hrequired, hschema, hin, -⟩ := get?_fields p
  rw [h.extras_eq hd hfirst]
  refine sameObject_append hn (hk.nodup (by decide)) hk.subset ?_
  intro name hname
  simp only [List.mem_cons, List.not_mem_nil, or_false] at hname
  rcases hname with rfl | rfl | rfl | rfl
  · refine rel_of_eq (hrefl _) ?_
    rw [hname', ← lastOf_eq_get? hn]
    exact h.name
  · rw [hrequired]
    exact hflag
  · refine rel_of_eq (hrefl _) ?_
    rw [hschema, h.map_schema hd hfirst]
  · refine rel_of_eq (hrefl _) ?_
    rw [hin, ← lastOf_eq_get? hn]
    exact h.location

end

/-- A plain entry of a parameter list is written with what it was read
from. -/
theorem ParameterEntry.IsFrom.same {e : ParameterEntry}
    (h : e.IsFrom (.obj ms)) (hd : (Json.obj ms).Distinct)
    (hp : IsPlain ms) :
    ∃ ns, e.toJson .declared = .obj ns ∧ SameParameter ms ns := by
  cases h with
  | @reference r _ _ hr =>
      obtain ⟨href, hsame⟩ := hr.same hd (.inr hp.first.1)
      refine ⟨r.fields ++ r.extras, rfl, ?_⟩
      unfold SameParameter
      rw [if_pos href]
      exact hsame
  | @parameter p _ inPlace hfrom =>
      refine ⟨p.fields ++ p.extras, p.toJson_eq, ?_⟩
      unfold SameParameter
      rw [if_neg (Bool.eq_false_iff.1 inPlace)]
      have hflag := hfrom.map_required hd (hp.flag inPlace)
      exact hfrom.sameObject hd (.inr hp.first.2) (fun _ => Eq)
        (fun _ _ => rfl) (rel_eq hflag.symm)

end

-- ============================================================== routes

/-- A list of plain entries is written with what it was read from. -/
theorem IsParameterList.same {es : List ParameterEntry} {v : Json}
    (h : IsParameterList es v) (hd : v.Distinct)
    (hp : ∀ items, v = .arr items →
      ∀ ps, Json.obj ps ∈ items → IsPlain ps) :
    SameParameters v (.arr (es.map (·.toJson .declared))) := by
  obtain ⟨items, rfl, hall⟩ := h
  have hdistinct := distinct_arr_iff.1 hd
  have hplain := hp items rfl
  refine ⟨items, _, rfl, rfl, ?_⟩
  clear hd hp
  -- along the list, since each entry was read from its item
  induction hall with
  | nil => exact .nil
  | @cons e item es items he _ ih =>
      obtain ⟨hitem, hrest⟩ := List.forall_mem_cons.1 hdistinct
      refine .cons ?_
        (ih hrest fun ps hps => hplain ps (List.mem_cons_of_mem _ hps))
      obtain ⟨ps, rfl⟩ := he.exists_eq_obj
      obtain ⟨qs, hqs, hsame⟩ :=
        he.same hitem (hplain ps List.mem_cons_self)
      exact ⟨ps, qs, rfl, hqs, hsame⟩

section

variable {ms : Table Json}

theorem PathItem.IsFrom.same {i : PathItem} (h : i.IsFrom ms)
    (hd : (Json.obj ms).Distinct)
    (hp : ∀ ps, Json.obj ps ∈ parameterItems ms → IsPlain ps) :
    SameObject ["parameters"] (fun _ => SameParameters) ms
      (i.fields ++ i.extras) := by
  obtain ⟨hn, hdistinct⟩ := distinct_obj_iff.1 hd
  have hk := keys_fields i
  have hparameters := h.parameters
  rw [lastOf_eq_get? hn] at hparameters
  rw [h.extras, extrasOf_of_distinct hd]
  refine sameObject_append hn (hk.nodup (by decide)) hk.subset ?_
  intro name hname
  cases List.mem_singleton.1 hname
  rw [get?_fields]
  have hlist (v : Json) (hv : get? ms "parameters" = some v)
      (items : List Json) (heq : v = .arr items) :
      ∀ ps, Json.obj ps ∈ items → IsPlain ps := by
    rw [heq] at hv
    rw [← parameterItems_eq hv]
    exact hp
  have hvalue (v : Json) (hv : get? ms "parameters" = some v) :
      v.Distinct := hdistinct _ (mem_of_get?_eq_some hv)
  -- the list is there for both or for neither
  generalize i.parameters = parameters at hparameters
  generalize get? ms "parameters" = found at hparameters hlist hvalue
  cases hparameters with
  | none => exact .none
  | some hes => exact .some (hes.same (hvalue _ rfl) (hlist _ rfl))

theorem PathEntry.IsFrom.same {e : PathEntry}
    (h : e.IsFrom (.obj ms)) (hd : (Json.obj ms).Distinct)
    (hp : HoldsInRoute IsPlain (.obj ms)) :
    ∃ ns, e.toJson .declared = .obj ns ∧ SameRoute ms ns := by
  cases h with
  | @reference r _ points hr =>
      obtain ⟨href, hsame⟩ := hr.same hd (.inl (has_iff.1 points))
      refine ⟨r.fields ++ r.extras, rfl, ?_⟩
      unfold SameRoute
      rw [if_pos href]
      exact hsame
  | @item i _ inPlace hi =>
      refine ⟨i.fields ++ i.extras, rfl, ?_⟩
      unfold SameRoute
      rw [if_neg (Bool.eq_false_iff.1 inPlace)]
      exact hi.same hd (hp inPlace)

/-- A route table whose parameters are plain is written with what it was
read from. -/
theorem Routes.IsFrom.same {routes : Routes} {v : Json}
    (h : routes.IsFrom v) (hd : v.Distinct)
    (hp : ∀ rms, v = .obj rms →
      ∀ member ∈ rms, HoldsInRoute IsPlain member.2) :
    SameRoutes v routes.toJson := by
  obtain ⟨rms, -, rfl, -⟩ := id h
  obtain ⟨hn, hdistinct⟩ := distinct_obj_iff.1 hd
  have hall := h.entries_eq hn
  have hplain := hp rms rfl
  refine ⟨rms, _, rfl, routes.toJson_eq, ?_⟩
  generalize routes.entries = entries at hall
  clear h hd hp hn
  -- along the table, since each entry was read from its member
  induction hall with
  | nil => exact .nil
  | @cons entry member entries rms he _ ih =>
      obtain ⟨hroute, hrest⟩ := List.forall_mem_cons.1 hdistinct
      obtain ⟨hp, hprest⟩ := List.forall_mem_cons.1 hplain
      refine .cons ⟨he.1.symm, ?_⟩ (ih hrest hprest)
      obtain ⟨key, v⟩ := member
      obtain ⟨ms, rfl⟩ := he.2.exists_eq_obj
      obtain ⟨ns, hns, hsame⟩ := he.2.same hroute hp
      exact ⟨ms, ns, rfl, hns, hsame⟩

end

-- =========================================================== documents

/-- What is written of a document is the value that it was read from. -/
theorem Document.IsFrom.same {d : Document} {v : Json} (h : d.IsFrom v)
    (hd : v.Distinct) (hp : HoldsInPaths IsPlain v) :
    SameDocument v d.toJson := by
  obtain ⟨ms, rfl, hversion, hpaths, hextras⟩ := h
  obtain ⟨hn, hdistinct⟩ := distinct_obj_iff.1 hd
  have hk := keys_fields d
  obtain ⟨hversion', hpaths'⟩ := get?_fields d
  have hwritable : writable d.extras
      = ms.filter fun m => !(["openapi", "paths"].contains m.1) := by
    rw [hextras, writable_mapValues, extrasOf_of_distinct hd]
  refine ⟨ms, _, rfl, rfl, ?_⟩
  rw [hwritable]
  refine sameObject_append hn (hk.nodup (by decide)) hk.subset ?_
  intro name hname
  rw [lastOf_eq_get? hn] at hversion hpaths
  rcases List.mem_cons.1 hname with rfl | hname
  · rw [if_neg (by decide), hversion', hversion]
    exact rel_eq rfl
  cases List.mem_singleton.1 hname
  rw [if_pos rfl, hpaths']
  have hroutes (w : Json) (hw : get? ms "paths" = some w)
      (rms : Table Json) (heq : w = .obj rms) :
      ∀ member ∈ rms, HoldsInRoute IsPlain member.2 := by
    rw [heq] at hw
    rw [← routeMembers_eq hw]
    exact hp
  have hvalue (w : Json) (hw : get? ms "paths" = some w) : w.Distinct :=
    hdistinct _ (mem_of_get?_eq_some hw)
  -- the route table is there for both or for neither
  generalize d.paths = paths at hpaths
  generalize get? ms "paths" = found at hpaths hroutes hvalue
  cases hpaths with
  | none => exact .none
  | some hr => exact .some (hr.same (hvalue _ rfl) (hroutes _ rfl))

namespace Document

/-- A document that was read is written, and its text is one of the same
document: nothing is invented and nothing dropped. -/
theorem textOf_sameDocument {raw : Raw} {bs : List UInt8} {v : Json}
    {d : Document} (hraw : raw.bytes? = some bs)
    (hread : Json.read bs = .ok v) (hparse : parse raw = .ok d)
    (hd : v.Distinct) (whole : v.Throughout IsWhole)
    (hp : HoldsInPaths IsPlain v) :
    ∃ w, Render.textOf d = .ok w.compact
      ∧ Json.read (Utf8.bytes w.compact) = .ok w ∧ SameDocument v w := by
  have hfits := fits_of_read hread whole
  have hfrom : d.IsFrom v := by
    obtain ⟨v', hv', h⟩ := (parse_eq_ok_iff hraw).1 hparse
    rw [hread] at hv'
    cases hv'
    exact h
  -- what is written is no larger than what was read, so it can be read
  -- again
  have hfits' := hfrom.fits hfits
  have hdepth : d.toJson.levels ≤ depthLimit :=
    Nat.le_trans hfits'.levels (by decide)
  exact ⟨d.toJson, textOf_eq_ok hfrom.isWritable hdepth,
    read_compact hfits', hfrom.same hd hp⟩

/-- A document whose version comes last and whose parameter has extras on
both sides of its fields. -/
theorem textOf_sameDocument_reordered :
    ∃ v, v = Json.obj [("info", .obj [("b", .int 2), ("a", .int 1)]),
        ("paths", .obj [("/graph", .obj [("get", .null), ("parameters",
          .arr [.obj [("x", .int 7), ("in", .str "query"),
            ("required", .bool true), ("y", .null),
            ("name", .str "q")]])])]),
        ("openapi", .str "3.1.0")]
      ∧ ∃ d w, parse (.text v.compact) = .ok d
        ∧ Render.textOf d = .ok w.compact ∧ SameDocument v w := by
  refine ⟨_, rfl, ?_⟩
  generalize hv : Json.obj _ = v
  have hfits : v.Fits (Reader.levelLimit + 1) := by
    subst hv
    decide
  have hdistinct : v.Distinct := by
    subst hv
    decide
  have hplain : HoldsInPaths IsPlain v := by
    subst hv
    intro member hmember
    cases List.mem_singleton.1 hmember
    intro _ ps hps
    cases List.mem_singleton.1 hps
    refine ⟨⟨by decide, by decide⟩, fun _ w hw => ?_⟩
    cases hw
    exact ⟨true, rfl⟩
  have hfrom : ∃ d, ofJson v = .ok d := by
    subst hv
    exact ⟨_, rfl⟩
  obtain ⟨d, hd⟩ := hfrom
  have hraw : (Raw.text v.compact).bytes?
      = some (Utf8.bytes v.compact) := rfl
  have hread := read_compact hfits
  have hparse : parse (.text v.compact) = .ok d :=
    parse_text_eq_ok_iff.2 ⟨v, hread, ofJson_eq_ok_iff.1 hd⟩
  obtain ⟨w, hw, -, hsame⟩ :=
    textOf_sameDocument hraw hread hparse hdistinct hfits.whole hplain
  exact ⟨d, w, hparse, hw, hsame⟩

end Document

end ApiMount
