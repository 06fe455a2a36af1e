/-
What a store loads: a document that is read from the JSON that its
template is (`TemplateStore.exists_isFrom_of_load`). Every key of it has
an entry of its own, in a slot that was made for it
(`TemplateStore.fresh_of_load`).
-/
import ApiMount.Proofs.Render.Edit

namespace ApiMount.TemplateStore

open Table

variable {store : TemplateStore} {d : Document}

/-- A store gives a document exactly when its text is parsed as one. -/
theorem load_eq_ok_iff :
    store.load = .ok d ↔ Document.parse store.raw = .ok d :=
  mapError_eq_ok_iff

/-- The document is read from the JSON that the store's bytes hold. -/
theorem exists_isFrom_of_load (h : store.load = .ok d) :
    ∃ bytes v, store.raw.bytes? = some bytes
      ∧ Json.read bytes = .ok v ∧ d.IsFrom v :=
  Document.exists_isFrom_of_parse (load_eq_ok_iff.1 h)

/-- A document that was loaded has its entries in fresh slots. -/
theorem fresh_of_load (h : store.load = .ok d) :
    d.routes = Routes.fresh 0 d.routes.entries
      ∧ (keys d.routes.entries).Nodup := by
  obtain ⟨-, v, -, -, hfrom⟩ := exists_isFrom_of_load h
  constructor
  · obtain ⟨ms, rfl, hms⟩ := hfrom
    exact Edit.routes_eq_fresh hms
  · unfold Routes.entries
    rw [keys_mapValues]
    exact hfrom.sound.routes.nodup

end ApiMount.TemplateStore
