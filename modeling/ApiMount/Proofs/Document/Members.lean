/-
Reading a value that repeats no key. Then what counts for a key is the
one member under it, what no field has taken stands as it stood
(`extrasOf_of_distinct`), and the entries of a route table are those of
its members (`Routes.IsFrom.entries_eq`). So the parts of a document can
be named by where they stand in the value: `routeMembers` and
`parameterItems`.
-/
import ApiMount.Proofs.Document.Codec

namespace ApiMount

open Json Table

variable {ms : List (String × Json)}

-- ============================================================== members

/-- What counts for a key is the value of a member. -/
theorem mem_of_lastOf {key : String} {v : Json}
    (h : lastOf ms key = some v) : (key, v) ∈ ms := by
  have hmem : (key, v) ∈ ms.reverse := mem_of_get?_eq_some h
  exact List.mem_reverse.1 hmem

/-- What is read as a field is a member of the object. -/
theorem mem_of_field? {name second under : String} {v : Json}
    (h : field? ms name second = some (under, v)) : (under, v) ∈ ms := by
  unfold field? at h
  cases hn : lastOf ms name with
  | some w =>
      rw [hn] at h
      cases h
      exact mem_of_lastOf hn
  | none =>
      rw [hn] at h
      obtain ⟨w, hw, heq⟩ := Option.map_eq_some_iff.1 h
      cases heq
      exact mem_of_lastOf hw

/-- Where no key stands twice, the extras are members as they stood. -/
theorem extrasOf_of_distinct (hd : (Json.obj ms).Distinct)
    (taken : List String) :
    extrasOf ms taken = ms.filter fun m => !taken.contains m.1 := by
  unfold extrasOf
  rw [tidyTable_of_distinct hd]

/-- A field that is there under its first name, or not under its second
one. -/
theorem field?_first {name second : String}
    (h : name ∈ keys ms ∨ second ∉ keys ms) :
    field? ms name second = (lastOf ms name).map (name, ·) := by
  unfold field?
  cases hname : lastOf ms name with
  | some v => rfl
  | none =>
      have hsecond := h.resolve_left (lastOf_eq_none_iff.1 hname)
      rw [lastOf_eq_none_iff.2 hsecond]
      rfl

-- =============================================================== fields

/-- A schema is written as the value that it was read from. -/
theorem IsSchema.schemaJson_eq {s : Option (Table Json)} {v : Json}
    (h : IsSchema s v) (hd : v.Distinct) : schemaJson s = v := by
  cases s with
  | none => exact Eq.symm h
  | some t =>
      obtain ⟨inner, rfl, rfl⟩ := h
      rw [tidyTable_of_distinct hd]
      rfl

-- =========================================================== parameters

/-- The items of the parameter list of a route, if it has one. -/
def parameterItems (ns : Table Json) : List Json :=
  match get? ns "parameters" with
  | some (.arr items) => items
  | _ => []

theorem parameterItems_eq {ns : Table Json} {items : List Json}
    (h : get? ns "parameters" = some (.arr items)) :
    parameterItems ns = items := by
  unfold parameterItems
  rw [h]

/-- What holds of the items of every list that is a member holds of the
items of the parameter list. -/
theorem forall_parameterItems {p q : Json → Prop}
    (hm : ∀ m ∈ ms, p m.2) (hp : ∀ vs, p (.arr vs) → ∀ v ∈ vs, q v) :
    ∀ v ∈ parameterItems ms, q v := by
  unfold parameterItems
  split
  · next vs h => exact hp vs (hm _ (mem_of_get?_eq_some h))
  · exact List.forall_mem_nil _

/-- No parameter item repeats a key when the route does not. -/
theorem distinct_parameterItems (hd : (Json.obj ms).Distinct) :
    ∀ item ∈ parameterItems ms, item.Distinct :=
  forall_parameterItems (distinct_obj_iff.1 hd).2
    fun _ h => distinct_arr_iff.1 h

/-- The parameters of a route are read from its items, in order. -/
theorem PathItem.IsFrom.forall₂ {i : PathItem} (h : i.IsFrom ms)
    (hn : (keys ms).Nodup) :
    List.Forall₂ ParameterEntry.IsFrom (i.parameters.getD [])
      (parameterItems ms) := by
  have hp := h.parameters
  rw [lastOf_eq_get? hn] at hp
  unfold parameterItems
  generalize i.parameters = parameters at hp
  generalize get? ms "parameters" = found at hp
  cases hp with
  | none => exact .nil
  | some hlist =>
      obtain ⟨items, rfl, hall⟩ := hlist
      exact hall

-- =============================================================== routes

/-- The members of the route table of a document, if it has one. -/
def routeMembers (ms : Table Json) : Table Json :=
  match get? ms "paths" with
  | some (.obj rms) => rms
  | _ => []

theorem routeMembers_eq {ms rms : Table Json}
    (h : get? ms "paths" = some (.obj rms)) : routeMembers ms = rms := by
  unfold routeMembers
  rw [h]

/-- The routes repeat no key when the document does not. -/
theorem distinct_routeMembers (hd : (Json.obj ms).Distinct) :
    (Json.obj (routeMembers ms)).Distinct := by
  unfold routeMembers
  split
  · next rms h =>
    exact (distinct_obj_iff.1 hd).2 _ (mem_of_get?_eq_some h)
  · exact distinct_obj_iff.2 ⟨List.nodup_nil, List.forall_mem_nil _⟩

/-- Entries go by the keys of the members that they were read from. -/
theorem PathEntry.keys_eq {entries : Table PathEntry} {rms : Table Json}
    (h : List.Forall₂ PathEntry.IsMemberFrom entries rms) :
    keys entries = keys rms := by
  induction h with
  | nil => rfl
  | cons he _ ih => exact congrArg₂ List.cons he.1 ih

/-- Where no key stands twice, the entries that are read are those of the
members, in order. -/
theorem Routes.IsFrom.entries_eq {routes : Routes} {rms : Table Json}
    (h : routes.IsFrom (.obj rms)) (hn : (keys rms).Nodup) :
    List.Forall₂ PathEntry.IsMemberFrom routes.entries rms := by
  obtain ⟨ms, entries, heq, hall, rfl⟩ := h
  cases heq
  rw [← PathEntry.keys_eq hall] at hn
  unfold Routes.entries
  rw [Routes.mapValues_fresh, ofPairs_eq_self hn]
  exact hall

/-- The routes of a document are read from the members of the table, in
order. -/
theorem Document.IsFromMembers.forall₂ {d : Document}
    (h : d.IsFromMembers ms) (hd : (Json.obj ms).Distinct) :
    List.Forall₂ PathEntry.IsMemberFrom d.routes.entries
      (routeMembers ms) := by
  have hp := h.paths
  have hroutes := distinct_routeMembers hd
  rw [lastOf_eq_get? (distinct_obj_iff.1 hd).1] at hp
  unfold Document.routes
  unfold routeMembers at hroutes ⊢
  generalize d.paths = paths at hp
  generalize get? ms "paths" = found at hp hroutes
  cases hp with
  | none => exact .nil
  | some hrs =>
      obtain ⟨rms, -, rfl, -⟩ := id hrs
      exact hrs.entries_eq (distinct_obj_iff.1 hroutes).1

end ApiMount
