/-
When a document is sound: no field of a modelled object stands among its
extras, no key stands twice, and what is carried unread holds no key
twice either. A sound document can be written without losing or
inventing anything; a document that was read always is one
(`Document.IsFrom.sound`).

A document keeps more apart than its fields. An object without a target
must not gain one, so `$ref` is none of its extras; and a schema may be
written under a second name, so that name is none of the extras where
there is no schema.
-/
import ApiMount.Proofs.Document.Reading
import ApiMount.Proofs.Json.Inside

namespace ApiMount

open Json Table

-- ============================================================= soundness

/-- Extras of an object that has fields of the given names. -/
abbrev Carried (names : List String) (t : Table Json) : Prop :=
  Proper Distinct names t

/-- Nothing of a reference gets lost or mixed up when it is written. -/
def Reference.Sound (r : Reference) : Prop := Carried ["$ref"] r.extras

/-- Nothing of a parameter gets lost or mixed up when it is written. -/
structure Parameter.Sound (p : Parameter) : Prop where
  extras : Carried ["$ref", "name", "required", "schema", "in"] p.extras
  second : p.schema = none → "schema_" ∉ keys p.extras
  schema : ∀ t, p.schema = some (some t) → (Json.obj t).Distinct

/-- Nothing of an entry of a parameter list gets lost or mixed up. -/
def ParameterEntry.Sound : ParameterEntry → Prop
  | .reference r => r.Sound
  | .parameter p => p.Sound

/-- Nothing of a route described in place gets lost or mixed up. -/
structure PathItem.Sound (i : PathItem) : Prop where
  extras : Carried ["$ref", "parameters"] i.extras
  parameters : ∀ e ∈ i.parameters.getD [], e.Sound

/-- Nothing of an entry of the route table gets lost or mixed up. -/
def PathEntry.Sound : PathEntry → Prop
  | .reference r => r.Sound
  | .item i => i.Sound

/-- A value of an unmodelled key holds no key twice. -/
def Extra.Distinct : Extra → Prop
  | .json v => v.Distinct
  | .unwritable => True

/-- Nothing of a document gets lost or mixed up when it is written. -/
structure Document.Sound (d : Document) : Prop where
  extras : Proper Extra.Distinct ["openapi", "paths"] d.extras
  routes : Proper (fun slot : Slot => slot.entry.Sound) [] d.routes

-- ========================================================= what is read

section

variable {ms : List (String × Json)} {key : String}

/-- Nothing counts for a key exactly when it is not there. -/
theorem lastOf_eq_none_iff : lastOf ms key = none ↔ key ∉ keys ms := by
  show get? ms.reverse key = none ↔ _
  rw [get?_eq_none_iff]
  unfold keys
  rw [List.map_reverse, List.mem_reverse]

/-- An object is told as a reference by its target's key alone. -/
theorem isReference_eq_false_iff :
    isReference ms = false ↔ "$ref" ∉ keys ms := by
  unfold isReference
  rw [has_eq_false_iff, get?_eq_none_iff]

/-- Putting pairs in turn makes no key of its own. -/
theorem mem_keys_ofPairs {pairs : List (String × Json)}
    (h : key ∈ keys (ofPairs pairs)) : key ∈ keys pairs := by
  obtain ⟨value, hvalue⟩ := mem_keys_iff.1 h
  exact mem_keys_of_mem (mem_of_mem_ofPairs hvalue)

/-- What is carried is what no field has taken, so it has none of the
names that were taken or were not there. -/
theorem carried_extrasOf {names taken : List String}
    (h : ∀ name ∈ names, name ∈ taken ∨ name ∉ keys ms) :
    Carried names (extrasOf ms taken) := by
  refine ⟨nodup_keys_filter _ (nodup_keys_ofPairs _), ?_, ?_⟩
  · intro name hname hmem
    unfold extrasOf at hmem
    obtain ⟨hkey, htaken⟩ := mem_keys_rest.1 hmem
    rcases h name hname with hin | hout
    · exact htaken hin
    · have hms := mem_keys_ofPairs hkey
      rw [keys_tidyMembers] at hms
      exact hout hms
  · intro pair hpair
    exact distinct_tidyMembers ms pair
      (mem_of_mem_ofPairs (List.mem_filter.1 hpair).1)

/-- A field that may go by two names: its second name counts only where
the first is absent. -/
theorem field?_cases (ms : List (String × Json))
    (name second : String) :
    (∃ v, field? ms name second = some (name, v))
      ∨ name ∉ keys ms ∧ (∃ v, field? ms name second = some (second, v))
      ∨ name ∉ keys ms ∧ second ∉ keys ms
        ∧ field? ms name second = none := by
  unfold field?
  cases hname : lastOf ms name with
  | some v => exact .inl ⟨v, rfl⟩
  | none =>
      refine .inr ?_
      have hn := lastOf_eq_none_iff.1 hname
      cases hsecond : lastOf ms second with
      | some v => exact .inl ⟨hn, v, rfl⟩
      | none => exact .inr ⟨hn, lastOf_eq_none_iff.1 hsecond, rfl⟩

end

theorem forall_of_forall₂ {α β : Type} {R : α → β → Prop}
    {P : α → Prop} (hR : ∀ a b, R a b → P a) {as : List α}
    {bs : List β} (h : List.Forall₂ R as bs) : ∀ a ∈ as, P a := by
  induction h with
  | nil => exact List.forall_mem_nil _
  | cons hab _ ih => exact List.forall_mem_cons.2 ⟨hR _ _ hab, ih⟩

section

variable {ms : List (String × Json)}

/-- A reference that was read is sound. -/
theorem Reference.IsFrom.sound {r : Reference} (h : r.IsFrom ms) :
    r.Sound := by
  obtain ⟨under, hunder, hextras⟩ := h.target
  unfold Reference.Sound
  rw [hextras]
  refine carried_extrasOf fun name hname => ?_
  rw [List.mem_singleton] at hname
  subst hname
  rcases field?_cases ms "$ref" "ref" with
    ⟨v, hv⟩ | ⟨hn, -⟩ | ⟨hn, -⟩
  · rw [hv] at hunder
    cases hunder
    exact .inl List.mem_cons_self
  · exact .inr hn
  · exact .inr hn

/-- An object made tidy repeats no key. -/
theorem distinct_tidyTable (ms : List (String × Json)) :
    (Json.obj (tidyTable ms)).Distinct :=
  distinct_tidy (.obj ms)

/-- A parameter is described in place, so it has no target among its
extras. -/
theorem Parameter.IsFrom.sound {p : Parameter}
    (inPlace : isReference ms = false) (h : p.IsFrom ms) : p.Sound := by
  have href := isReference_eq_false_iff.1 inPlace
  have hschema : "schema" ∈ Parameter.taken ms ∨ "schema" ∉ keys ms := by
    unfold Parameter.taken
    rcases field?_cases ms "schema" "schema_" with
      ⟨v, hv⟩ | ⟨hn, -⟩ | ⟨hn, -⟩
    · rw [hv]
      exact .inl (List.mem_append_right _ List.mem_cons_self)
    · exact .inr hn
    · exact .inr hn
  have htaken : ∀ name ∈ ["name", "required", "in"],
      name ∈ Parameter.taken ms := fun name hname =>
    List.mem_append_left _ hname
  -- no extra has a name that is taken; the second name of the schema is
  -- taken, or not there; and a schema was made tidy when it was read
  refine ⟨?_, ?_, ?_⟩
  · rw [h.extras]
    refine carried_extrasOf fun name hname => ?_
    simp only [List.mem_cons, List.not_mem_nil, or_false] at hname
    rcases hname with rfl | rfl | rfl | rfl | rfl
    · exact .inr href
    · exact .inl (htaken _ (by decide))
    · exact .inl (htaken _ (by decide))
    · exact hschema
    · exact .inl (htaken _ (by decide))
  · intro hnone
    have hs := h.schema
    rw [hnone] at hs
    have hsecond : "schema_" ∉ keys ms := by
      rcases field?_cases ms "schema" "schema_" with
        ⟨v, hv⟩ | ⟨-, v, hv⟩ | ⟨-, hn, -⟩
      · rw [hv] at hs
        cases hs
      · rw [hv] at hs
        cases hs
      · exact hn
    rw [h.extras]
    have hc : Carried ["schema_"]
        (extrasOf ms (Parameter.taken ms)) := by
      refine carried_extrasOf fun name hname => ?_
      rw [List.mem_singleton] at hname
      exact .inr (hname ▸ hsecond)
    exact hc.apart _ List.mem_cons_self
  · intro t ht
    have hs := h.schema
    rw [ht] at hs
    generalize (field? ms "schema" "schema_").map Prod.snd = found at hs
    cases hs with
    | some hv =>
        obtain ⟨inner, -, rfl⟩ := hv
        exact distinct_tidyTable inner

theorem ParameterEntry.IsFrom.sound {e : ParameterEntry} {v : Json}
    (h : e.IsFrom v) : e.Sound := by
  cases h with
  | reference _ hr => exact hr.sound
  | parameter inPlace hp => exact hp.sound inPlace

theorem PathItem.IsFrom.sound {i : PathItem}
    (inPlace : isReference ms = false) (h : i.IsFrom ms) : i.Sound := by
  have href := isReference_eq_false_iff.1 inPlace
  refine ⟨?_, ?_⟩
  · rw [h.extras]
    refine carried_extrasOf fun name hname => ?_
    simp only [List.mem_cons, List.not_mem_nil, or_false] at hname
    rcases hname with rfl | rfl
    · exact .inr href
    · exact .inl List.mem_cons_self
  · have hp := h.parameters
    cases hi : i.parameters with
    | none => exact List.forall_mem_nil _
    | some es =>
        rw [hi] at hp
        generalize lastOf ms "parameters" = found at hp
        cases hp with
        | some hes =>
            obtain ⟨items, -, hall⟩ := hes
            exact forall_of_forall₂ (fun _ _ he => he.sound) hall

/-- An entry of the route table that was read is sound. -/
theorem PathEntry.IsFrom.sound {e : PathEntry} {v : Json}
    (h : e.IsFrom v) : e.Sound := by
  cases h with
  | reference _ hr => exact hr.sound
  | item inPlace hi => exact hi.sound inPlace

end

/-- Putting entries into slots changes none of them. -/
theorem Routes.mapValues_fresh (number : Nat) (t : Table PathEntry) :
    mapValues Slot.entry (Routes.fresh number t) = t := by
  induction t generalizing number with
  | nil => rfl
  | cons head rest ih =>
      obtain ⟨key, entry⟩ := head
      show (key, entry) :: mapValues Slot.entry (fresh (number + 1) rest)
        = _
      rw [ih]

/-- A route table that was read is sound. -/
theorem Routes.IsFrom.sound {routes : Routes} {v : Json}
    (h : routes.IsFrom v) :
    Proper (fun slot : Slot => slot.entry.Sound) [] routes := by
  obtain ⟨ms, entries, -, hall, rfl⟩ := h
  refine proper_mapValues_iff.1 ?_
  rw [Routes.mapValues_fresh]
  exact Proper.ofPairs
    (forall_of_forall₂ (fun _ _ hentry => hentry.2.sound) hall)

/-- What was read is sound, however the value repeats its keys. -/
theorem Document.IsFrom.sound {d : Document} {v : Json}
    (h : d.IsFrom v) : d.Sound := by
  obtain ⟨ms, -, h⟩ := h
  refine ⟨?_, ?_⟩
  · rw [h.extras]
    refine proper_mapValues_iff.2 (carried_extrasOf fun name hname => ?_)
    exact .inl hname
  · have hp := h.paths
    unfold Document.routes
    cases hd : d.paths with
    | none => exact proper_nil
    | some routes =>
        rw [hd] at hp
        generalize lastOf ms "paths" = found at hp
        cases hp with
        | some hroutes => exact hroutes.sound

end ApiMount
