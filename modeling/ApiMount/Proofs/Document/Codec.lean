/-
Writing and reading are inverse. A sound document is written as
`d.toJson`, unless an extra has no JSON form or values lie too deep
inside each other (`write_eq_ok`, `unwritable_of_error`); and what is
read from `d.toJson` is the same document again (`isFrom_toJson`), with
its entries in fresh slots.

Each modelled object is written as the members that its fields make and
its extras behind them. So one lemma says when such an object holds no
key twice (`distinct_append`), and one that the extras are found again
(`extrasOf_append`); what is left for each kind of object is to find its
fields.
-/
import ApiMount.Proofs.Document.Sound
import ApiMount.Proofs.Json.Completeness
import ApiMount.Render

namespace ApiMount

open Json Table

-- ==================================================== fields and extras

section

variable {fields extras : Table Json} {names taken : List String}

/-- Extras that keep apart from the names of the fields make one object
with them. -/
theorem distinct_append (hn : (keys fields).Nodup)
    (hf : ∀ key ∈ keys fields, key ∈ names)
    (hv : ∀ member ∈ fields, member.2.Distinct)
    (he : Carried names extras) :
    (Json.obj (fields ++ extras)).Distinct := by
  refine distinct_obj_iff.2 ⟨?_, ?_⟩
  · rw [keys_append]
    refine List.nodup_append.2 ⟨hn, he.nodup, ?_⟩
    rintro key hkey _ hextra rfl
    exact he.apart key (hf key hkey) hextra
  · intro member hmember
    rcases List.mem_append.1 hmember with h | h
    · exact hv member h
    · exact he.values member h

/-- Whoever leaves out every name of a field leaves out the fields. -/
theorem filter_fields (hf : ∀ key ∈ keys fields, key ∈ taken) :
    (fields.filter fun m => !taken.contains m.1) = [] := by
  refine List.filter_eq_nil_iff.2 fun member hmember => ?_
  have hin := hf member.1 (mem_keys_of_mem hmember)
  rw [List.contains_iff_mem.2 hin]
  exact Bool.false_ne_true

/-- What no field has taken is the extras. -/
theorem extrasOf_append (hd : (Json.obj (fields ++ extras)).Distinct)
    (hf : ∀ key ∈ keys fields, key ∈ taken)
    (he : ∀ name ∈ taken, name ∉ keys extras) :
    extrasOf (fields ++ extras) taken = extras := by
  unfold extrasOf
  rw [tidyTable_of_distinct hd, List.filter_append]
  have hall : extras.filter (fun m => !taken.contains m.1) = extras := by
    refine List.filter_eq_self.2 fun member hmember => ?_
    rw [Bool.not_eq_true', Bool.eq_false_iff]
    intro hin
    exact he member.1 (List.contains_iff_mem.1 hin)
      (mem_keys_of_mem hmember)
  rw [filter_fields hf, hall, List.nil_append]

/-- What counts for a key is found among the fields, or else among the
extras. -/
theorem lastOf_append (hd : (Json.obj (fields ++ extras)).Distinct)
    (key : String) :
    lastOf (fields ++ extras) key
      = (get? fields key).or (get? extras key) := by
  rw [lastOf_eq_get? (distinct_obj_iff.1 hd).1, get?_append]

/-- A name that no extra has is found among the fields only. -/
theorem lastOf_field (hd : (Json.obj (fields ++ extras)).Distinct)
    {key : String} (hkey : key ∉ keys extras) :
    lastOf (fields ++ extras) key = get? fields key := by
  rw [lastOf_append hd, get?_eq_none_iff.2 hkey, Option.or_none]

end

-- ========================================================== references

/-- The members that the fields of a reference make. -/
def Reference.fields (r : Reference) : Table Json :=
  [("$ref", .str r.target)]

theorem Reference.toJson_eq (r : Reference) :
    r.toJson = .obj (r.fields ++ r.extras) := rfl

/-- A sound reference is written with no key twice. -/
theorem Reference.Sound.distinct {r : Reference} (h : r.Sound) :
    r.toJson.Distinct := by
  rw [toJson_eq]
  refine distinct_append ?_ ?_ ?_ h
  · show ["$ref"].Nodup
    decide
  · intro key hkey
    exact hkey
  · intro member hmember
    rw [fields, List.mem_singleton] at hmember
    subst hmember
    exact trivial

/-- A sound reference can be read from what is written of it. -/
theorem Reference.Sound.isFrom {r : Reference} (h : r.Sound) :
    r.IsFrom (r.fields ++ r.extras) := by
  have hd := h.distinct
  rw [toJson_eq] at hd
  have htarget : lastOf (r.fields ++ r.extras) "$ref"
      = some (.str r.target) :=
    lastOf_field hd (h.apart _ List.mem_cons_self)
  refine ⟨"$ref", ?_, ?_⟩
  · unfold field?
    rw [htarget]
  · exact (extrasOf_append hd (fun _ hkey => hkey) h.apart).symm

/-- What is written of a reference is told as one, by its target. -/
theorem Reference.isReference_fields (r : Reference)
    (extras : Table Json) : isReference (r.fields ++ extras) = true := by
  unfold isReference
  rw [has_iff, keys_append]
  exact List.mem_append_left _ List.mem_cons_self

-- ========================================================== parameters

/-- The members that the fields of a parameter make. -/
def Parameter.fields (p : Parameter) : Table Json :=
  ("name", .str p.name)
    :: (Detail.declared.member "required" (.bool false)
          (p.required.map .bool)
      ++ Detail.declared.member "schema" .null (p.schema.map schemaJson)
      ++ [("in", .str p.location.word)])

/-- A parameter is written as its fields, then its extras. -/
theorem Parameter.toJson_eq (p : Parameter) :
    p.toJson .declared = .obj (p.fields ++ p.extras) := by
  unfold Parameter.toJson Parameter.fields
  rw [List.cons_append, List.append_assoc _ [_]]
  rfl

namespace Parameter

variable {p : Parameter}

/-- Each field stands under its own name, if it is set, and nothing under
the second name of the schema. -/
theorem get?_fields (p : Parameter) :
    get? p.fields "name" = some (.str p.name)
      ∧ get? p.fields "required" = p.required.map .bool
      ∧ get? p.fields "schema" = p.schema.map schemaJson
      ∧ get? p.fields "in" = some (.str p.location.word)
      ∧ get? p.fields "schema_" = none := by
  unfold fields
  rcases p.required with _ | b <;> rcases p.schema with _ | s <;>
    exact ⟨rfl, rfl, rfl, rfl, rfl⟩

/-- The fields stand in their order; one that is not set is left out. -/
theorem keys_fields (p : Parameter) :
    (keys p.fields).Sublist ["name", "required", "schema", "in"] := by
  unfold fields
  rcases p.required with _ | b <;> rcases p.schema with _ | s
  · show List.Sublist ["name", "in"] _
    decide
  · show List.Sublist ["name", "schema", "in"] _
    decide
  · show List.Sublist ["name", "required", "in"] _
    decide
  · exact List.Sublist.refl _

/-- A sound parameter is written with no key twice. -/
theorem Sound.distinct (h : p.Sound) :
    (p.toJson .declared).Distinct := by
  have hk := keys_fields p
  rw [toJson_eq]
  refine distinct_append (hk.nodup (by decide)) ?_ ?_ h.extras
  · intro key hkey
    exact List.mem_cons_of_mem _ (hk.subset hkey)
  · intro member hmember
    unfold fields at hmember
    simp only [List.mem_cons, List.mem_append, List.not_mem_nil,
      or_false] at hmember
    -- only the schema has parts
    rcases hmember with rfl | (hrequired | hschema) | rfl
    · exact trivial
    · cases hr : p.required with
      | none =>
          rw [hr] at hrequired
          cases hrequired
      | some b =>
          rw [hr] at hrequired
          cases List.mem_singleton.1 hrequired
          exact trivial
    · cases hs : p.schema with
      | none =>
          rw [hs] at hschema
          cases hschema
      | some s =>
          rw [hs] at hschema
          cases List.mem_singleton.1 hschema
          cases s with
          | none => exact trivial
          | some t => exact h.schema t hs
    · exact trivial

/-- A schema is found again under its first name. -/
theorem Sound.field?_schema (h : p.Sound) :
    field? (p.fields ++ p.extras) "schema" "schema_"
      = p.schema.map fun s => ("schema", schemaJson s) := by
  have hd := h.distinct
  rw [toJson_eq] at hd
  obtain ⟨-, -, hschema, -, hsecond⟩ := get?_fields p
  unfold field?
  rw [lastOf_field hd (h.extras.apart _ (by decide)), hschema]
  cases hs : p.schema with
  | none =>
      show (lastOf _ "schema_").map _ = none
      rw [lastOf_field hd (h.second hs), hsecond]
      rfl
  | some s => rfl

/-- The fields take their own names and no others. -/
theorem Sound.mem_taken_iff (h : p.Sound) {key : String} :
    key ∈ taken (p.fields ++ p.extras)
      ↔ key ∈ ["name", "required", "in"]
        ∨ key = "schema" ∧ p.schema.isSome = true := by
  unfold taken
  rw [h.field?_schema, List.mem_append]
  refine or_congr Iff.rfl ?_
  cases p.schema with
  | none => simp
  | some s => simp

/-- A sound parameter can be read from what is written of it. -/
theorem Sound.isFrom (h : p.Sound) : p.IsFrom (p.fields ++ p.extras) := by
  have hd := h.distinct
  rw [toJson_eq] at hd
  obtain ⟨hname, hrequired, hschema, hin, -⟩ := get?_fields p
  have apart := h.extras.apart
  refine ⟨?_, ?_, ?_, ?_, ?_⟩
  · rw [lastOf_field hd (apart _ (by decide)), hin]
  · rw [lastOf_field hd (apart _ (by decide)), hname]
  · rw [lastOf_field hd (apart _ (by decide)), hrequired]
    cases p.required with
    | none => exact .none
    | some b => exact .some rfl
  · rw [h.field?_schema]
    cases hs : p.schema with
    | none => exact .none
    | some s =>
        refine .some ?_
        cases s with
        | none => exact rfl
        | some t =>
            have ht := tidyTable_of_distinct (h.schema t hs)
            exact ⟨t, rfl, ht.symm⟩
  -- what was read has taken the names of the fields that are set, and no
  -- extra has one of them
  · refine (extrasOf_append hd ?_ ?_).symm
    · intro key hkey
      refine h.mem_taken_iff.2 ?_
      have hmem := (keys_fields p).subset hkey
      by_cases hs : key = "schema"
      · subst hs
        refine .inr ⟨rfl, ?_⟩
        cases hnone : p.schema with
        | some s => rfl
        | none =>
            rw [hnone] at hschema
            exact absurd hkey (get?_eq_none_iff.1 hschema)
      · refine .inl ?_
        simp only [List.mem_cons, List.not_mem_nil, or_false] at hmem ⊢
        tauto
    · intro name hmem
      refine apart name ?_
      rcases h.mem_taken_iff.1 hmem with hfield | ⟨rfl, -⟩
      · simp only [List.mem_cons, List.not_mem_nil, or_false] at hfield ⊢
        tauto
      · decide

/-- What is written of a sound parameter is not told as a reference: it has
no target. -/
theorem isReference_fields (h : p.Sound) :
    isReference (p.fields ++ p.extras) = false := by
  rw [isReference_eq_false_iff, keys_append, List.mem_append]
  rintro (hfield | hextra)
  · exact absurd ((keys_fields p).subset hfield) (by decide)
  · exact h.extras.apart "$ref" List.mem_cons_self hextra

end Parameter

theorem ParameterEntry.Sound.distinct {e : ParameterEntry}
    (h : e.Sound) : (e.toJson .declared).Distinct := by
  cases e with
  | reference r => exact Reference.Sound.distinct h
  | parameter p => exact Parameter.Sound.distinct h

theorem ParameterEntry.Sound.isFrom {e : ParameterEntry}
    (h : e.Sound) : e.IsFrom (e.toJson .declared) := by
  cases e with
  | reference r =>
      exact .reference (.inl (r.isReference_fields r.extras))
        (Reference.Sound.isFrom h)
  | parameter p =>
      show IsFrom (.parameter p) (p.toJson .declared)
      rw [p.toJson_eq]
      exact .parameter (Parameter.isReference_fields h)
        (Parameter.Sound.isFrom h)

/-- A sound list can be read from what is written of it, entry by
entry. -/
theorem ParameterEntry.forall₂_isFrom {es : List ParameterEntry}
    (h : ∀ e ∈ es, e.Sound) :
    List.Forall₂ ParameterEntry.IsFrom es
      (es.map (·.toJson .declared)) := by
  induction es with
  | nil => exact .nil
  | cons e es ih =>
      obtain ⟨he, hes⟩ := List.forall_mem_cons.1 h
      exact .cons he.isFrom (ih hes)

-- ============================================================== routes

/-- The members that the fields of a route described in place make. -/
def PathItem.fields (i : PathItem) : Table Json :=
  Detail.declared.member "parameters" (.arr [])
    (i.parameters.map fun ps => .arr (ps.map (·.toJson .declared)))

namespace PathItem

variable {i : PathItem}

theorem toJson_eq (i : PathItem) :
    i.toJson .declared = .obj (i.fields ++ i.extras) := rfl

/-- The parameter list stands under its name, if there is one. -/
theorem get?_fields (i : PathItem) :
    get? i.fields "parameters"
      = i.parameters.map fun ps =>
        .arr (ps.map (·.toJson .declared)) := by
  unfold fields
  cases i.parameters with
  | none => rfl
  | some ps => rfl

/-- The list is the only field, and one that is not there is left out. -/
theorem keys_fields (i : PathItem) :
    (keys i.fields).Sublist ["parameters"] := by
  unfold fields
  cases i.parameters with
  | none => exact List.nil_sublist _
  | some ps => exact List.Sublist.refl _

/-- A sound route described in place is written with no key twice. -/
theorem Sound.distinct (h : i.Sound) :
    (i.toJson .declared).Distinct := by
  have hk := keys_fields i
  rw [toJson_eq]
  refine distinct_append (hk.nodup (by decide)) ?_ ?_ h.extras
  · intro key hkey
    exact List.mem_cons_of_mem _ (hk.subset hkey)
  · intro member hmember
    unfold fields at hmember
    cases hi : i.parameters with
    | none =>
        rw [hi] at hmember
        cases hmember
    | some es =>
        rw [hi] at hmember
        cases List.mem_singleton.1 hmember
        have hes := h.parameters
        rw [hi] at hes
        refine distinct_arr_iff.2 fun v hv => ?_
        obtain ⟨e, he, rfl⟩ := List.mem_map.1 hv
        exact (hes e he).distinct

/-- A sound route described in place can be read from what is written of
it. -/
theorem Sound.isFrom (h : i.Sound) : i.IsFrom (i.fields ++ i.extras) := by
  have hd := h.distinct
  rw [toJson_eq] at hd
  refine ⟨?_, ?_⟩
  · rw [lastOf_field hd (h.extras.apart _ (by decide)), get?_fields]
    cases hi : i.parameters with
    | none => exact .none
    | some es =>
        have hes := h.parameters
        rw [hi] at hes
        exact .some ⟨_, rfl, ParameterEntry.forall₂_isFrom hes⟩
  · refine (extrasOf_append hd (keys_fields i).subset ?_).symm
    intro name hname
    exact h.extras.apart name (List.mem_cons_of_mem _ hname)

/-- What is written of such a route is not told as a reference. -/
theorem isReference_fields (h : i.Sound) :
    isReference (i.fields ++ i.extras) = false := by
  rw [isReference_eq_false_iff, keys_append, List.mem_append]
  rintro (hfield | hextra)
  · exact absurd ((keys_fields i).subset hfield) (by decide)
  · exact h.extras.apart "$ref" List.mem_cons_self hextra

end PathItem

theorem PathEntry.Sound.distinct {e : PathEntry} (h : e.Sound) :
    (e.toJson .declared).Distinct := by
  cases e with
  | reference r => exact Reference.Sound.distinct h
  | item i => exact PathItem.Sound.distinct h

theorem PathEntry.Sound.isFrom {e : PathEntry} (h : e.Sound) :
    e.IsFrom (e.toJson .declared) := by
  cases e with
  | reference r =>
      exact .reference (r.isReference_fields r.extras)
        (Reference.Sound.isFrom h)
  | item i =>
      exact .item (PathItem.isReference_fields h) (PathItem.Sound.isFrom h)

namespace Routes

variable {routes : Routes}

/-- The entries of a route table, whichever of them are one entry. -/
def entries (routes : Routes) : Table PathEntry :=
  mapValues Slot.entry routes

/-- A route table is written from its entries alone. -/
theorem toJson_eq (routes : Routes) :
    routes.toJson
      = .obj (mapValues (PathEntry.toJson .declared) routes.entries) := by
  unfold toJson entries
  rw [mapValues_mapValues]

/-- A table of sound routes is written with no key twice. -/
theorem Sound.distinct
    (h : Proper (fun slot : Slot => slot.entry.Sound) [] routes) :
    routes.toJson.Distinct := by
  unfold toJson
  refine distinct_obj_iff.2 ⟨?_, ?_⟩
  · rw [keys_mapValues]
    exact h.nodup
  · intro member hmember
    obtain ⟨pair, hpair, rfl⟩ := List.mem_map.1 hmember
    exact (h.values pair hpair).distinct

/-- A route table is read again with its entries in fresh slots. -/
theorem isFrom_toJson
    (h : Proper (fun slot : Slot => slot.entry.Sound) [] routes) :
    (fresh 0 routes.entries).IsFrom routes.toJson := by
  refine ⟨_, routes.entries, rfl, ?_, ?_⟩
  · have hvalues := h.values
    unfold entries mapValues
    clear h
    induction routes with
    | nil => exact .nil
    | cons pair rest ih =>
        obtain ⟨hpair, hrest⟩ := List.forall_mem_cons.1 hvalues
        exact .cons ⟨rfl, hpair.isFrom⟩ (ih hrest)
  · rw [ofPairs_eq_self]
    unfold entries
    rw [keys_mapValues]
    exact h.nodup

/-- A route table is written entry by entry. -/
theorem writeAll_eq_ok
    (h : ∀ pair ∈ routes,
      (pair.2.entry.toJson .declared).levels ≤ depthLimit) :
    writeAll routes
      = .ok (mapValues (fun slot => slot.entry.toJson .declared)
        routes) := by
  induction routes with
  | nil => rfl
  | cons pair rest ih =>
      obtain ⟨key, slot⟩ := pair
      obtain ⟨hslot, hrest⟩ := List.forall_mem_cons.1 h
      rw [writeAll, PathEntry.write_eq_ok_iff.2 ⟨rfl, hslot⟩, ih hrest]
      rfl

/-- A route table within the limit can be written, and so can none. -/
theorem write?_eq_ok {paths : Option Routes}
    (h : ∀ routes, paths = some routes →
      routes.toJson.levels ≤ depthLimit) :
    write? paths = .ok (paths.map toJson) := by
  cases paths with
  | none => rfl
  | some routes =>
      have hroutes := h routes rfl
      unfold toJson at hroutes
      rw [Json.levels] at hroutes
      have hall : writeAll routes = .ok (mapValues
          (fun slot => slot.entry.toJson .declared) routes) := by
        refine writeAll_eq_ok fun pair hpair => ?_
        exact deepestMember_le_iff.1 (Nat.le_of_add_left_le hroutes)
          (pair.1, pair.2.entry.toJson .declared)
          (List.mem_map_of_mem hpair)
      rw [write?, hall]
      rfl

end Routes

-- ============================================================ documents

/-- The JSON form of an extra, if it has one. -/
def Extra.toJson? : Extra → Option Json
  | .json v => some v
  | .unwritable => none

namespace Document

variable {d d' : Document}

/-- The extras that have a JSON form. -/
def writable (extras : Table Extra) : Table Json :=
  extras.filterMap fun pair => pair.2.toJson?.map (pair.1, ·)

/-- The members that the fields of a document make. -/
def fields (d : Document) : Table Json :=
  ("openapi", .str d.version)
    :: Detail.declared.member "paths" .null (d.paths.map Routes.toJson)

/-- A document as JSON. What has no JSON form is left out. -/
def toJson (d : Document) : Json :=
  .obj (d.fields ++ writable d.extras)

/-- Every extra has a JSON form. -/
def IsWritable (d : Document) : Prop :=
  ∀ key, (key, Extra.unwritable) ∉ d.extras

/-- Extras that can all be written come back from their JSON form. -/
theorem writable_of_forall {extras : Table Extra}
    (h : ∀ key, (key, Extra.unwritable) ∉ extras) :
    mapValues .json (writable extras) = extras := by
  induction extras with
  | nil => rfl
  | cons pair rest ih =>
      obtain ⟨key, extra⟩ := pair
      have hrest := ih fun k hk => h k (List.mem_cons_of_mem _ hk)
      cases extra with
      | unwritable => exact absurd List.mem_cons_self (h key)
      | json v =>
          show (key, Extra.json v)
            :: mapValues .json (writable rest) = _
          rw [hrest]

/-- Extras that were read all have their JSON form. -/
theorem writable_mapValues (extras : Table Json) :
    writable (mapValues .json extras) = extras := by
  induction extras with
  | nil => rfl
  | cons member rest ih =>
      obtain ⟨key, v⟩ := member
      show (key, v) :: writable (mapValues .json rest) = _
      rw [ih]

/-- Extras that can be written and stay within the limit are written. -/
theorem writeAll_eq_ok {extras : Table Extra}
    (h : ∀ key, (key, Extra.unwritable) ∉ extras)
    (hlevels : ∀ member ∈ writable extras,
      member.2.levels ≤ depthLimit) :
    Extra.writeAll extras = .ok (writable extras) := by
  induction extras with
  | nil => rfl
  | cons pair rest ih =>
      obtain ⟨key, extra⟩ := pair
      cases extra with
      | unwritable => exact absurd List.mem_cons_self (h key)
      | json v =>
          obtain ⟨hv, hr⟩ := List.forall_mem_cons.1 hlevels
          have hrest := ih (fun k hk => h k (List.mem_cons_of_mem _ hk)) hr
          rw [Extra.writeAll, Extra.write,
            unlessTooDeep_eq_ok_iff.2 ⟨rfl, hv⟩, hrest]
          rfl

/-- One extra without a JSON form keeps all from being written. -/
theorem writeAll_unwritable {extras : Table Extra} {key : String}
    (h : (key, Extra.unwritable) ∈ extras) (w : Table Json) :
    Extra.writeAll extras ≠ .ok w := by
  intro hw
  induction extras generalizing w with
  | nil => cases h
  | cons pair rest ih =>
      obtain ⟨k, extra⟩ := pair
      rw [Extra.writeAll] at hw
      obtain ⟨v, hv, hw⟩ := bind_eq_ok_iff.1 hw
      obtain ⟨vs, hvs, -⟩ := bind_eq_ok_iff.1 hw
      rcases List.mem_cons.1 h with heq | hrest
      · cases heq
        cases hv
      · exact ih hrest vs hvs

/-- Each member of a written document has one level less than it. -/
theorem levels_member {n : Nat} (h : d.toJson.levels ≤ n + 1) :
    ∀ member ∈ d.fields ++ writable d.extras, member.2.levels ≤ n :=
  levels_obj_le_iff.1 h

/-- A document is written unless an extra has no JSON form, as far as
its values do not lie too deep inside each other. -/
theorem write_eq_ok (hw : d.IsWritable)
    (hl : d.toJson.levels ≤ depthLimit) : d.write = .ok d.toJson := by
  -- each member is written for itself, with one level less than the limit
  have hmembers := levels_member (n := 254) hl
  have hextras : Extra.writeAll d.extras = .ok (writable d.extras) := by
    refine writeAll_eq_ok hw fun member hmember => ?_
    exact Nat.le_succ_of_le
      (hmembers member (List.mem_append_right _ hmember))
  have hpaths : Routes.write? d.paths
      = .ok (d.paths.map Routes.toJson) := by
    refine Routes.write?_eq_ok fun routes hd => ?_
    refine Nat.le_succ_of_le (hmembers ("paths", routes.toJson)
      (List.mem_append_left _ ?_))
    unfold fields
    rw [hd]
    exact List.mem_cons_of_mem _ List.mem_cons_self
  unfold write
  rw [hpaths, hextras]
  rfl

/-- Writing fails if an extra has no JSON form. -/
theorem write_ne_ok {key : String}
    (h : (key, Extra.unwritable) ∈ d.extras) (v : Json) :
    d.write ≠ .ok v := by
  intro hv
  obtain ⟨paths, -, hv⟩ := bind_eq_ok_iff.1 hv
  obtain ⟨extras, hextras, -⟩ := bind_eq_ok_iff.1 hv
  exact writeAll_unwritable h extras hextras

/-- The members written for the extras are those with a JSON form. -/
theorem mem_writable {extras : Table Extra} {key : String} {v : Json} :
    (key, v) ∈ writable extras ↔ (key, Extra.json v) ∈ extras := by
  unfold writable
  rw [List.mem_filterMap]
  constructor
  · intro h
    obtain ⟨⟨k, extra⟩, hmem, heq⟩ := h
    cases extra with
    | unwritable => cases heq
    | json w =>
        cases heq
        exact hmem
  · intro hmem
    exact ⟨(key, .json v), hmem, rfl⟩

/-- What has no JSON form is left out, and the rest keeps its order. -/
theorem keys_writable (extras : Table Extra) :
    (keys (writable extras)).Sublist (keys extras) := by
  induction extras with
  | nil => exact List.Sublist.refl _
  | cons pair rest ih =>
      obtain ⟨key, extra⟩ := pair
      cases extra with
      | unwritable => exact List.Sublist.cons _ ih
      | json v => exact List.Sublist.cons_cons _ ih

/-- The written extras of a sound document can be carried by it. -/
theorem Sound.writable (h : d.Sound) :
    Carried ["openapi", "paths"] (writable d.extras) := by
  have hk := keys_writable d.extras
  refine ⟨hk.nodup h.extras.nodup, ?_, ?_⟩
  · intro name hname hmem
    exact h.extras.apart name hname (hk.subset hmem)
  · rintro ⟨key, v⟩ hmember
    exact h.extras.values _ (mem_writable.1 hmember)

/-- The version always stands there, the route table if it is set. -/
theorem get?_fields (d : Document) :
    get? d.fields "openapi" = some (.str d.version)
      ∧ get? d.fields "paths" = d.paths.map Routes.toJson := by
  unfold fields
  cases d.paths with
  | none => exact ⟨rfl, rfl⟩
  | some routes => exact ⟨rfl, rfl⟩

/-- The fields stand in their order. -/
theorem keys_fields (d : Document) :
    (keys d.fields).Sublist ["openapi", "paths"] := by
  unfold fields
  cases d.paths with
  | none =>
      show List.Sublist ["openapi"] _
      decide
  | some routes => exact List.Sublist.refl _

/-- A sound document is written with no key twice. -/
theorem Sound.distinct (h : d.Sound) : d.toJson.Distinct := by
  have hk := keys_fields d
  refine distinct_append (hk.nodup (by decide)) hk.subset ?_ h.writable
  intro member hmember
  unfold fields at hmember
  rcases List.mem_cons.1 hmember with rfl | hmember
  · exact trivial
  · cases hd : d.paths with
    | none =>
        rw [hd] at hmember
        cases hmember
    | some routes =>
        rw [hd] at hmember
        cases List.mem_singleton.1 hmember
        have hroutes := h.routes
        unfold Document.routes at hroutes
        rw [hd] at hroutes
        exact Routes.Sound.distinct hroutes

-- ========================================================== round trips

/-- The same document with its entries in fresh slots, so that no two of
them are one. -/
def renumbered (d : Document) : Document :=
  { d with paths := d.paths.map fun routes =>
      Routes.fresh 0 routes.entries }

/-- What is read from a document's JSON is the document again. -/
theorem isFrom_toJson (h : d.Sound) (hw : d.IsWritable) :
    d.renumbered.IsFrom d.toJson := by
  have hd := h.distinct
  obtain ⟨hversion, hpaths⟩ := get?_fields d
  refine ⟨_, rfl, ?_, ?_, ?_⟩
  · rw [lastOf_field hd (h.writable.apart _ (by decide))]
    exact hversion
  · rw [lastOf_field hd (h.writable.apart _ (by decide)), hpaths]
    unfold renumbered
    cases hp : d.paths with
    | none => exact .none
    | some routes =>
        have hroutes := h.routes
        unfold Document.routes at hroutes
        rw [hp] at hroutes
        exact .some (Routes.isFrom_toJson hroutes)
  · rw [extrasOf_append hd (keys_fields d).subset h.writable.apart]
    exact (writable_of_forall hw).symm

/-- Two documents that differ at most in which entries are one. -/
structure SameContent (d e : Document) : Prop where
  version : d.version = e.version
  paths : d.paths.map Routes.entries = e.paths.map Routes.entries
  extras : d.extras = e.extras

/-- Giving every route a slot of its own changes nothing that shows. -/
theorem sameContent_renumbered (d : Document) :
    SameContent d d.renumbered := by
  refine ⟨rfl, ?_, rfl⟩
  unfold renumbered
  cases d.paths with
  | none => rfl
  | some routes =>
      show some _ = some (mapValues Slot.entry (Routes.fresh 0 _))
      rw [Routes.mapValues_fresh]

/-- What is written depends on the content only. -/
theorem SameContent.toJson_eq (h : SameContent d d') :
    d.toJson = d'.toJson := by
  have hpaths : d.paths.map Routes.toJson
      = d'.paths.map Routes.toJson := by
    have hentries (paths : Option Routes) : paths.map Routes.toJson
        = (paths.map Routes.entries).map fun t =>
          .obj (mapValues (PathEntry.toJson .declared) t) := by
      cases paths with
      | none => rfl
      | some routes => exact congrArg some routes.toJson_eq
    rw [hentries, hentries, h.paths]
  unfold toJson fields
  rw [h.version, h.extras, hpaths]

/-- What can be written and is not too deep has a text, the compact one of
its JSON form. -/
theorem text_eq_ok (hw : d.IsWritable)
    (hl : d.toJson.levels ≤ depthLimit) :
    d.text = .ok d.toJson.compact := by
  unfold text
  rw [write_eq_ok hw hl]
  rfl

theorem textOf_eq_ok (hw : d.IsWritable)
    (hl : d.toJson.levels ≤ depthLimit) :
    Render.textOf d = .ok d.toJson.compact := by
  unfold Render.textOf
  rw [text_eq_ok hw hl]
  rfl

/-- No text is given while an extra has no JSON form. -/
theorem textOf_ne_ok {key : String}
    (h : (key, Extra.unwritable) ∈ d.extras) (text : String) :
    Render.textOf d ≠ .ok text := by
  unfold Render.textOf Document.text
  intro ht
  rw [mapError_eq_ok_iff, map_eq_ok_iff] at ht
  obtain ⟨v, hv, -⟩ := ht
  exact write_ne_ok h v hv

/-- A sound document's JSON, within the limits of the reader, is a text
that is accepted as the same document. -/
theorem parse_compact (h : d.Sound) (hw : d.IsWritable)
    (hl : d.toJson.Fits (Reader.levelLimit + 1)) :
    parse (.text d.toJson.compact) = .ok d.renumbered :=
  parse_text_eq_ok_iff.2 ⟨_, read_compact hl, isFrom_toJson h hw⟩

end Document

end ApiMount
