/-
A document takes no more room than the value that it was read from: what
a modelled object is written as is made of the members that it was read
from, made tidy, or of values without parts in their place. That holds of
every layered measure of room (`Document.IsFrom.layered`). So a document
that was read within the limits can be written and read again
(`Document.IsFrom.fits`), and whatever numbers it holds, it lies no
deeper (`Document.IsFrom.levels_le`).
-/
import ApiMount.Proofs.Document.Members

namespace ApiMount

open Json Table

variable {ms : List (String × Json)} {n : Nat}

-- ============================================================== members

/-- A member that an absent field makes is none. -/
theorem mem_member {name : String} {default : Json}
    {value : Option Json} {member : String × Json}
    (h : member ∈ Detail.declared.member name default value) :
    ∃ v, value = some v ∧ member = (name, v) := by
  cases value with
  | none => cases h
  | some v => exact ⟨v, rfl, List.mem_singleton.1 h⟩

/-- A field that was read is read from a value. -/
theorem exists_of_rel_some {α β : Type} {R : α → β → Prop} {a : α}
    {found : Option β} (h : Option.Rel R (some a) found) :
    ∃ b, found = some b ∧ R a b := by
  cases h with
  | some hb => exact ⟨_, rfl, hb⟩

section

variable {P : Nat → Json → Prop} (hP : Layered P)

include hP

/-- An object has room where its fields and its extras have room. -/
theorem Json.Layered.append {fields extras : Table Json}
    (hf : ∀ member ∈ fields, P n member.2)
    (he : ∀ member ∈ extras, P n member.2) :
    P (n + 1) (.obj (fields ++ extras)) := by
  refine hP.obj_iff.2 fun member hmember => ?_
  rcases List.mem_append.1 hmember with h | h
  · exact hf member h
  · exact he member h

/-- What holds of the members of an object holds of its extras. -/
theorem Json.Layered.extrasOf (hm : ∀ m ∈ ms, P n m.2)
    (taken : List String) : ∀ m ∈ ApiMount.extrasOf ms taken, P n m.2 :=
  fun m h => hP.tidyTable hm m (List.mem_filter.1 h).1

-- =========================================================== references

/-- A reference is written no larger than what it was read from. -/
theorem Reference.IsFrom.layered {r : Reference} (h : r.IsFrom ms)
    (hm : ∀ m ∈ ms, P n m.2) : P (n + 1) r.toJson := by
  obtain ⟨under, hunder, hextras⟩ := h.target
  rw [Reference.toJson_eq, hextras]
  refine hP.append ?_ (hP.extrasOf hm _)
  intro member hmember
  cases List.mem_singleton.1 hmember
  exact hm (under, _) (mem_of_field? hunder)

-- =========================================================== parameters

theorem IsSchema.layered {s : Option (Table Json)} {v : Json}
    (h : IsSchema s v) (hv : P n v) : P n (schemaJson s) := by
  cases s with
  | none =>
      cases h
      exact hv
  | some t =>
      obtain ⟨inner, rfl, rfl⟩ := h
      exact hP.tidy (.obj inner) hv

theorem Parameter.IsFrom.layered {p : Parameter} (h : p.IsFrom ms)
    (hm : ∀ m ∈ ms, P n m.2) : P (n + 1) (p.toJson .declared) := by
  have hname := hm _ (mem_of_lastOf h.name)
  rw [Parameter.toJson_eq, h.extras]
  refine hP.append ?_ (hP.extrasOf hm _)
  intro member hmember
  unfold Parameter.fields at hmember
  rcases List.mem_cons.1 hmember with rfl | hmember
  · exact hname
  rcases List.mem_append.1 hmember with hmember | hmember
  · rcases List.mem_append.1 hmember with hmember | hmember
    · obtain ⟨v, hv, rfl⟩ := mem_member hmember
      obtain ⟨b, -, rfl⟩ := Option.map_eq_some_iff.1 hv
      obtain ⟨m, rfl⟩ := Nat.exists_eq_add_one.2 (hP.pos hname)
      exact hP.bool b
    · obtain ⟨v, hv, rfl⟩ := mem_member hmember
      obtain ⟨s, hs, rfl⟩ := Option.map_eq_some_iff.1 hv
      have hschema := h.schema
      rw [hs] at hschema
      obtain ⟨w, hw, hs⟩ := exists_of_rel_some hschema
      obtain ⟨pair, hpair, rfl⟩ := Option.map_eq_some_iff.1 hw
      exact hs.layered hP (hm pair (mem_of_field? hpair))
  · cases List.mem_singleton.1 hmember
    exact hm _ (mem_of_lastOf h.location)

theorem ParameterEntry.IsFrom.layered {e : ParameterEntry} {v : Json}
    (h : e.IsFrom v) (hv : P n v) : P n (e.toJson .declared) := by
  obtain ⟨m, rfl⟩ := Nat.exists_eq_add_one.2 (hP.pos hv)
  cases h with
  | reference _ hr => exact hr.layered hP (hP.obj_iff.1 hv)
  | parameter _ hp => exact hp.layered hP (hP.obj_iff.1 hv)

-- =============================================================== routes

theorem IsParameterList.layered {es : List ParameterEntry} {v : Json}
    (h : IsParameterList es v) (hv : P n v) :
    P n (.arr (es.map (·.toJson .declared))) := by
  obtain ⟨items, rfl, hall⟩ := h
  obtain ⟨m, rfl⟩ := Nat.exists_eq_add_one.2 (hP.pos hv)
  have hitems := hP.arr_iff.1 hv
  refine hP.arr_iff.2 ?_
  clear hv
  induction hall with
  | nil => exact List.forall_mem_nil _
  | cons he _ ih =>
      obtain ⟨hfirst, hrest⟩ := List.forall_mem_cons.1 hitems
      exact List.forall_mem_cons.2 ⟨he.layered hP hfirst, ih hrest⟩

theorem PathItem.IsFrom.layered {i : PathItem} (h : i.IsFrom ms)
    (hm : ∀ m ∈ ms, P n m.2) : P (n + 1) (i.toJson .declared) := by
  rw [PathItem.toJson_eq, h.extras]
  refine hP.append ?_ (hP.extrasOf hm _)
  intro member hmember
  unfold PathItem.fields at hmember
  obtain ⟨v, hv, rfl⟩ := mem_member hmember
  obtain ⟨es, hes, rfl⟩ := Option.map_eq_some_iff.1 hv
  have hlist := h.parameters
  rw [hes] at hlist
  obtain ⟨w, hw, hlist⟩ := exists_of_rel_some hlist
  exact hlist.layered hP (hm _ (mem_of_lastOf hw))

theorem PathEntry.IsFrom.layered {e : PathEntry} {v : Json}
    (h : e.IsFrom v) (hv : P n v) : P n (e.toJson .declared) := by
  obtain ⟨m, rfl⟩ := Nat.exists_eq_add_one.2 (hP.pos hv)
  cases h with
  | reference _ hr => exact hr.layered hP (hP.obj_iff.1 hv)
  | item _ hi => exact hi.layered hP (hP.obj_iff.1 hv)

/-- The entries have room where the members have room that they were
read from. -/
theorem PathEntry.layered_of_forall₂ {entries : Table PathEntry}
    {rms : Table Json}
    (h : List.Forall₂ PathEntry.IsMemberFrom entries rms)
    (hm : ∀ m ∈ rms, P n m.2) :
    ∀ e ∈ entries, P n (e.2.toJson .declared) := by
  induction h with
  | nil => exact List.forall_mem_nil _
  | cons he _ ih =>
      obtain ⟨hfirst, hrest⟩ := List.forall_mem_cons.1 hm
      exact List.forall_mem_cons.2 ⟨he.2.layered hP hfirst, ih hrest⟩

/-- A route table is written no larger than what it was read from. -/
theorem Routes.IsFrom.layered {routes : Routes} {v : Json}
    (h : routes.IsFrom v) (hv : P n v) : P n routes.toJson := by
  obtain ⟨m, rfl⟩ := Nat.exists_eq_add_one.2 (hP.pos hv)
  obtain ⟨rms, entries, rfl, hall, rfl⟩ := h
  have hentries :=
    PathEntry.layered_of_forall₂ hP hall (hP.obj_iff.1 hv)
  rw [Routes.toJson_eq]
  unfold Routes.entries
  rw [Routes.mapValues_fresh]
  refine hP.obj_iff.2 fun member hmember => ?_
  obtain ⟨entry, hentry, rfl⟩ := List.mem_map.1 hmember
  exact hentries entry (mem_of_mem_ofPairs hentry)

-- ============================================================ documents

/-- A document has room where the value has room that it was read
from. -/
theorem Document.IsFrom.layered {d : Document} {v : Json}
    (h : d.IsFrom v) (hv : P n v) : P n d.toJson := by
  obtain ⟨ms, rfl, h⟩ := h
  obtain ⟨m, rfl⟩ := Nat.exists_eq_add_one.2 (hP.pos hv)
  have hm := hP.obj_iff.1 hv
  unfold Document.toJson
  refine hP.append ?_ ?_
  · intro member hmember
    unfold Document.fields at hmember
    rcases List.mem_cons.1 hmember with rfl | hmember
    · exact hm _ (mem_of_lastOf h.version)
    · obtain ⟨v, hv, rfl⟩ := mem_member hmember
      obtain ⟨routes, hroutes, rfl⟩ := Option.map_eq_some_iff.1 hv
      have hp := h.paths
      rw [hroutes] at hp
      obtain ⟨w, hw, hp⟩ := exists_of_rel_some hp
      exact hp.layered hP (hm _ (mem_of_lastOf hw))
  · rintro ⟨key, v⟩ hmember
    rw [Document.mem_writable, h.extras] at hmember
    obtain ⟨old, hold, heq⟩ := List.mem_map.1 hmember
    cases heq
    exact hP.extrasOf hm _ old hold

end

/-- A document fits where the value fits that it was read from. -/
theorem Document.IsFrom.fits {d : Document} {v : Json}
    (h : d.IsFrom v) (hv : v.Fits n) : d.toJson.Fits n :=
  h.layered layered_fits hv

/-- A document lies no deeper than the value that it was read from. -/
theorem Document.IsFrom.levels_le {d : Document} {v : Json}
    (h : d.IsFrom v) : d.toJson.levels ≤ v.levels :=
  h.layered layered_levels (Nat.le_refl v.levels)

/-- Every extra of a document that was read has a JSON form. -/
theorem Document.IsFrom.isWritable {d : Document} {v : Json}
    (h : d.IsFrom v) : d.IsWritable := by
  obtain ⟨ms, -, h⟩ := h
  intro key hmem
  rw [h.extras] at hmem
  obtain ⟨old, -, heq⟩ := List.mem_map.1 hmem
  cases heq

end ApiMount
