/-
Rendering a template that is accepted never fails (`exists_render`), of
whatever numbers and repeated keys the template is made. The standard
parameter is made for every name, and what is to be written is never too
deep: a document lies no deeper than the template that it was read from,
and declaring parameters needs no more than seven levels in all.

Names that are loose texts have no part in this as long as they hold no
halves of surrogate pairs (`exists_renderNames`).
-/
import Mathlib.Data.List.TakeWhile
import ApiMount.Proofs.Template.Load

namespace ApiMount

open Json Table

variable {n : Nat}

-- =============================================================== levels

/-- Appending the standard parameter keeps an entry within any five
levels. -/
theorem PathEntry.levels_append_le {e : PathEntry} (names : List String)
    (h : (e.toJson .declared).levels ≤ n + 5) :
    ((e.append (names.map .mandatory)).toJson .declared).levels
      ≤ n + 5 := by
  cases e with
  | reference r => exact h
  | item i =>
      show ((i.append _).toJson .declared).levels ≤ _
      have h : (i.toJson .declared).levels ≤ n + 5 := h
      unfold PathItem.append
      by_cases hempty : (names.map Parameter.mandatory).isEmpty = true
      · rw [if_pos hempty]
        exact h
      rw [if_neg hempty]
      rw [PathItem.toJson_eq, levels_obj_le_iff] at h ⊢
      obtain ⟨hfields, hextras⟩ := List.forall_mem_append.1 h
      refine List.forall_mem_append.2 ⟨?_, hextras⟩
      intro member hmember
      cases List.mem_singleton.1 hmember
      refine levels_arr_le_iff.2 fun item hitem => ?_
      obtain ⟨entry, hentry, rfl⟩ := List.mem_map.1 hitem
      -- an old entry is as deep as it was, and a mandatory parameter has
      -- three levels
      rcases List.mem_append.1 hentry with hold | hnew
      · cases hp : i.parameters with
        | none =>
            rw [hp] at hold
            cases hold
        | some es =>
            rw [hp] at hold
            unfold PathItem.fields at hfields
            rw [hp] at hfields
            have hlist := hfields _ List.mem_cons_self
            exact levels_arr_le_iff.1 hlist _ (List.mem_map_of_mem hold)
      · obtain ⟨p, hp, rfl⟩ := List.mem_map.1 hnew
        obtain ⟨name, -, rfl⟩ := List.mem_map.1 hp
        have hthree : ((ParameterEntry.parameter
          (.mandatory name)).toJson .declared).levels = 3 := rfl
        rw [hthree]
        omega

/-- How deep a document lies is how deep its entries and its extras
do. -/
theorem Document.levels_le_iff {d : Document} :
    d.toJson.levels ≤ n + 2
      ↔ (∀ pair ∈ d.routes.entries, (pair.2.toJson .declared).levels ≤ n)
        ∧ ∀ member ∈ writable d.extras, member.2.levels ≤ n + 1 := by
  have hversion : (Json.str d.version).levels ≤ n + 1 :=
    Nat.succ_le_succ (Nat.zero_le n)
  unfold toJson fields
  rw [levels_obj_le_iff, List.forall_mem_append, List.forall_mem_cons]
  refine and_congr_left fun _ => ?_
  rw [and_iff_right hversion]
  unfold Document.routes
  cases d.paths with
  | none =>
      exact ⟨fun _ => List.forall_mem_nil _, fun _ => List.forall_mem_nil _⟩
  | some routes =>
      show (∀ member ∈ [("paths", routes.toJson)], _) ↔ _
      rw [List.forall_mem_singleton, Routes.toJson_eq, levels_obj_le_iff]
      exact List.forall_mem_map

-- ============================================================ rendering

/-- What is known of the paths is known of the routes. -/
theorem Document.entries_routes {e : Document} {t : Table PathEntry}
    (h : e.paths.map Routes.entries = some t) : e.routes.entries = t := by
  obtain ⟨routes, hsome, hentries⟩ := Option.map_eq_some_iff.1 h
  unfold Document.routes
  rw [hsome]
  exact hentries

namespace Render

variable {store : TemplateStore} {d : Document}

/-- A template that is accepted is rendered, for every path and all
names. -/
theorem exists_render (hload : store.load = .ok d) (base : String)
    (names : List String) :
    ∃ text log,
      render .standard store base (names.map .str) = .ok (text, log) := by
  obtain ⟨bytes, v, -, hread, hfrom⟩ :=
    TemplateStore.exists_isFrom_of_load hload
  obtain ⟨hfresh, hn⟩ := TemplateStore.fresh_of_load hload
  obtain ⟨e, log, hbuild, -, -, hextras, hpaths⟩ :=
    build_standard hload hfresh hn base names
  have hroutes := Document.entries_routes hpaths
  -- what the reader allows, less the levels above and in an entry
  have hlevels : d.toJson.levels ≤ 194 + 5 + 2 :=
    Nat.le_trans hfrom.levels_le (bounded_of_read hread).1
  have hwritten : e.toJson.levels ≤ 194 + 5 + 2 := by
    rw [Document.levels_le_iff] at hlevels ⊢
    rw [hroutes, hextras]
    refine ⟨fun pair hpair => ?_, hlevels.2⟩
    obtain ⟨old, hold, heq | heq⟩ := mem_mount_adjust hpair
    · rw [heq]
      exact PathEntry.levels_append_le names (hlevels.1 old hold)
    · rw [heq]
      exact hlevels.1 old hold
  have hwritable : e.IsWritable := by
    intro key
    rw [hextras]
    exact hfrom.isWritable key
  refine ⟨e.toJson.compact, log, ?_⟩
  unfold render
  rw [hbuild]
  dsimp only
  rw [Document.textOf_eq_ok hwritable
    (Nat.le_trans hwritten (by decide))]

/-- What is rendered is the text of what is built. -/
theorem textOf_of_render {template : ParameterTemplate} {base : String}
    {names : List Json} {built : Document} {log told : List Log.Record}
    {text : String}
    (hbuild : build template store base names = .ok (built, log))
    (hrender : render template store base names = .ok (text, told)) :
    textOf built = .ok text := by
  unfold render at hrender
  rw [hbuild] at hrender
  cases htext : textOf built with
  | ok written =>
      simp only [htext] at hrender
      cases hrender
      rfl
  | error f =>
      simp only [htext] at hrender
      cases hrender

end Render

/-- Without halves of surrogate pairs a name can be written. -/
theorem WriteFault.ofText?_eq_none {name : Text.LooseText}
    (h : name.any Text.LooseChar.isHalf = false) :
    ofText? name = none := by
  have hall : ∀ x ∈ name, (! Text.LooseChar.isHalf x) = true := by
    intro x hx
    rw [Bool.not_eq_true', ← Bool.not_eq_true]
    exact List.any_eq_false.1 h x hx
  unfold ofText?
  rw [List.takeWhile_eq_self_iff.2 hall]
  dsimp only
  rw [List.drop_length]
  rfl

/-- Names without halves of surrogate pairs are rendered as they are. -/
theorem Render.renderNames_eq_render {names : List Text.LooseText}
    (h : ∀ name ∈ names, name.any Text.LooseChar.isHalf = false)
    {template : ParameterTemplate} {store : TemplateStore}
    {base : String} :
    renderNames template store base names
      = render template store base ((names.map Text.tighten).map .str) := by
  have hnone : names.findSome? WriteFault.ofText? = none :=
    List.findSome?_eq_none_iff.2 fun name hname =>
      WriteFault.ofText?_eq_none (h name hname)
  unfold renderNames
  rw [hnone, ← List.map_map]

/-- What has a document renders with every list of names that hold no
halves of surrogate pairs. -/
theorem Render.exists_renderNames {store : TemplateStore} {d : Document}
    (hload : store.load = .ok d) (base : String)
    {names : List Text.LooseText}
    (h : ∀ name ∈ names, name.any Text.LooseChar.isHalf = false) :
    ∃ text log,
      renderNames .standard store base names = .ok (text, log) := by
  rw [renderNames_eq_render h]
  exact exists_render hload base (names.map Text.tighten)

end ApiMount
