/-
Rendering is a plain edit of the template's JSON (`render_eq_edit`).
`Edit.document` says what is edited: objects are appended to one array
and keys are renamed, and of what makes a document nothing is known
there. Whoever edits the template by hand and reads the result gets the
document that rendering makes in memory, and so the same text.

Both sides are compared entry by entry. A fresh document has an entry of
its own under every key, so that a change of the designated entry shows
under its key alone (`Document.inject_standard`).
-/
import ApiMount.Proofs.Document.Injection
import ApiMount.Proofs.Document.Size
import ApiMount.Proofs.Json.Limits
import ApiMount.Proofs.Session.RoundTrip

namespace ApiMount

open Json Table

-- ============================================================= the edit

namespace Edit

/-- The object that declares a mandatory parameter. -/
def declaration (name : String) : Json :=
  .obj [("in", .str "query"), ("name", .str name),
    ("required", .bool true), ("schema", .obj [("type", .str "string")])]

/-- A route's value with declarations appended to its parameter list,
unless it is a reference. -/
def declare (names : List String) : Json → Json
  | .obj ms =>
    if isReference ms || names.isEmpty then .obj ms
    else
      .obj (put ms "parameters"
        (.arr (parameterItems ms ++ names.map declaration)))
  | other => other

/-- A document's JSON with mandatory parameters declared at the
designated route and every route under a path. -/
def document (base : String) (names : List String) : Json → Json
  | .obj ms =>
    .obj (put ms "paths" (.obj (mount base
      (adjust designatedRoute (declare names) (routeMembers ms)))))
  | other => other

end Edit

-- ================================================= mandatory parameters

/-- The declaration of a mandatory parameter is read as that
parameter. -/
theorem ParameterEntry.isFrom_declaration (name : String) :
    (ParameterEntry.parameter (.mandatory name)).IsFrom
      (Edit.declaration name) := by
  have h : ofJson .text [] (Edit.declaration name)
      = .ok (.parameter (.mandatory name)) := rfl
  exact ofJson_eq_ok_iff.1 h

/-- The declared names can be read from their declarations. -/
theorem ParameterEntry.forall₂_declaration (names : List String) :
    List.Forall₂ ParameterEntry.IsFrom
      ((names.map Parameter.mandatory).map .parameter)
      (names.map Edit.declaration) := by
  induction names with
  | nil => exact .nil
  | cons name names ih => exact .cons (isFrom_declaration name) ih

-- ============================================================ in memory

/-- Rendering a fresh document never fails before it is written; of the
document only the routes have changed. -/
theorem Render.build_standard {store : TemplateStore} {d : Document}
    {t : Table PathEntry} (hload : store.load = .ok d)
    (hr : d.routes = Routes.fresh 0 t) (hn : (keys t).Nodup)
    (base : String) (names : List String) :
    ∃ e log, build .standard store base (names.map .str) = .ok (e, log)
      ∧ e.Sound ∧ e.version = d.version ∧ e.extras = d.extras
      ∧ e.paths.map Routes.entries = some (mount base
        (adjust designatedRoute (.append (names.map .mandatory)) t)) := by
  obtain ⟨report, after, hinject, hversion, hextras, hentries⟩ :=
    Document.inject_standard hr hn names
  have hsound : after.Sound :=
    (TemplateStore.sound_of_load hload).inject hinject
  refine ⟨after.mount base, injectionLog report
    ++ mountLog base after.routeKeys, ?_, hsound.mount base, hversion,
    hextras, ?_⟩
  · unfold build customize
    rw [hload]
    dsimp only
    rw [hinject]
    rfl
  · show some (Routes.entries (after.routes.mount base)) = _
    unfold Routes.entries at hentries ⊢
    rw [mapValues_mount, hentries]

-- ============================================================== by hand

section

variable {ms : List (String × Json)} {key : String} {v : Json} {n : Nat}

/-- A member put into an object repeats no key. -/
theorem Json.distinct_put (hd : (Json.obj ms).Distinct)
    (hv : v.Distinct) : (Json.obj (put ms key v)).Distinct := by
  obtain ⟨hn, hm⟩ := distinct_obj_iff.1 hd
  refine distinct_obj_iff.2 ⟨nodup_keys_put hn key v, ?_⟩
  intro member hmember
  rcases mem_put hmember with rfl | hold
  · exact hv
  · exact hm member hold

/-- A member that fits makes the object no deeper. -/
theorem Json.fits_put (hm : ∀ m ∈ ms, m.2.Fits n) (hv : v.Fits n) :
    (Json.obj (put ms key v)).Fits (n + 1) := by
  refine fits_obj_iff.2 fun member hmember => ?_
  rcases mem_put hmember with rfl | hold
  · exact hv
  · exact hm member hold

/-- What is put under the name of a field is no extra. -/
theorem extrasOf_put (hd : (Json.obj ms).Distinct) (hv : v.Distinct)
    {taken : List String} (hk : key ∈ taken) :
    extrasOf (put ms key v) taken = extrasOf ms taken := by
  rw [extrasOf_of_distinct (distinct_put hd hv),
    extrasOf_of_distinct hd]
  refine filter_put (fun w => ?_) ms v
  show (!taken.contains key) = false
  rw [List.contains_iff_mem.2 hk]
  rfl

/-- After a member is put it counts for its key, and for another key what
counted before. -/
theorem lastOf_put (hd : (Json.obj ms).Distinct) (k : String) :
    lastOf (put ms key v) k
      = if k = key then some v else lastOf ms k := by
  have hn := (distinct_obj_iff.1 hd).1
  rw [lastOf_eq_get? (nodup_keys_put hn key v), get?_put,
    lastOf_eq_get? hn]

end

namespace Edit

/-- A declaration repeats no key. -/
theorem distinct_declaration (name : String) :
    (declaration name).Distinct := by
  refine distinct_obj_iff.2 ⟨?_, ?_⟩
  · show ["in", "name", "required", "schema"].Nodup
    decide
  · intro member hmember
    simp only [List.mem_cons, List.not_mem_nil, or_false] at hmember
    rcases hmember with rfl | rfl | rfl | rfl
    · exact trivial
    · exact trivial
    · exact trivial
    · exact distinct_obj_iff.2 ⟨by decide, by decide⟩

/-- A declaration takes three levels: the object, its schema and the
type. -/
theorem fits_declaration (name : String) (n : Nat) :
    (declaration name).Fits (n + 3) := by
  refine fits_obj_iff.2 fun member hmember => ?_
  simp only [List.mem_cons, List.not_mem_nil, or_false] at hmember
  rcases hmember with rfl | rfl | rfl | rfl
  · exact fits_str _
  · exact fits_str _
  · exact fits_bool _
  · refine fits_obj_iff.2 fun member hmember => ?_
    cases List.mem_singleton.1 hmember
    exact fits_str _

variable {ms : List (String × Json)} {names : List String} {v : Json}
  {n : Nat}

/-- A parameter list makes no reference of a route, nor a route of one. -/
theorem isReference_put_parameters (w : Json) :
    isReference (put ms "parameters" w) = isReference ms := by
  unfold isReference
  rw [Bool.eq_iff_iff, has_iff, has_iff, keys_put]
  by_cases h : "parameters" ∈ keys ms
  · rw [if_pos h]
  · rw [if_neg h, List.mem_append, List.mem_singleton]
    exact or_iff_left (by decide)

/-- The list with the declarations repeats no key inside. -/
theorem distinct_items (hd : (Json.obj ms).Distinct) :
    (Json.arr (parameterItems ms ++ names.map declaration)).Distinct := by
  refine distinct_arr_iff.2 fun item hitem => ?_
  rcases List.mem_append.1 hitem with hold | hnew
  · exact distinct_parameterItems hd item hold
  · obtain ⟨name, -, rfl⟩ := List.mem_map.1 hnew
    exact distinct_declaration name

theorem distinct_declare (hd : v.Distinct) :
    (declare names v).Distinct := by
  unfold declare
  split
  · next ms =>
    split
    · exact hd
    · exact distinct_put hd (distinct_items hd)
  · exact hd

/-- Declarations need no more than four levels below a route. -/
theorem fits_declare (hv : v.Fits (n + 5)) :
    (declare names v).Fits (n + 5) := by
  unfold declare
  split
  · next ms =>
    split
    · exact hv
    · have hm := fits_obj_iff.1 hv
      refine fits_put hm (fits_arr_iff.2 fun item hitem => ?_)
      rcases List.mem_append.1 hitem with hold | hnew
      · exact forall_parameterItems hm (fun _ h => fits_arr_iff.1 h) item
          hold
      · obtain ⟨name, -, rfl⟩ := List.mem_map.1 hnew
        exact fits_declaration name n
  · exact hv

/-- What declares parameters is read as what has them appended. -/
theorem isFrom_declare {e : PathEntry} (h : e.IsFrom v)
    (hd : v.Distinct) :
    (e.append (names.map .mandatory)).IsFrom (declare names v) := by
  cases h with
  | @reference r ms points hr =>
      unfold declare
      dsimp only
      rw [points, Bool.true_or, if_pos rfl]
      exact .reference points hr
  | @item i ms inPlace hi =>
      unfold declare
      dsimp only
      rw [inPlace, Bool.false_or]
      show PathEntry.IsFrom (.item (i.append _)) _
      unfold PathItem.append
      rw [List.isEmpty_map]
      -- without names no list is set where there was none
      by_cases hnames : names.isEmpty = true
      · rw [if_pos hnames, if_pos hnames]
        exact .item inPlace hi
      rw [if_neg hnames, if_neg hnames]
      refine .item ?_ ⟨?_, ?_⟩
      · rw [isReference_put_parameters]
        exact inPlace
      · rw [lastOf_put hd, if_pos rfl]
        have hitems := hi.forall₂ (distinct_obj_iff.1 hd).1
        exact .some ⟨_, rfl, List.rel_append hitems
          (ParameterEntry.forall₂_declaration names)⟩
      · rw [extrasOf_put hd (distinct_items hd) List.mem_cons_self]
        exact hi.extras

-- ------------------------------------------------------- route tables

theorem distinct_routes (names : List String) (base : String)
    {rms : Table Json} (hd : (Json.obj rms).Distinct) :
    (Json.obj (mount base
      (adjust designatedRoute (declare names) rms))).Distinct := by
  obtain ⟨hn, hm⟩ := distinct_obj_iff.1 hd
  refine distinct_obj_iff.2 ⟨?_, fun member hmember => ?_⟩
  · refine nodup_keys_mount ?_
    rw [keys_adjust]
    exact hn
  · obtain ⟨old, hold, heq | heq⟩ := mem_mount_adjust hmember
    · rw [heq]
      exact distinct_declare (hm old hold)
    · rw [heq]
      exact hm old hold

/-- The edited route table is as deep as routes may be. -/
theorem fits_routes {base : String} {rms : Table Json}
    (hv : (Json.obj rms).Fits (n + 6)) :
    (Json.obj (mount base
      (adjust designatedRoute (declare names) rms))).Fits (n + 6) := by
  have hm := fits_obj_iff.1 hv
  refine fits_obj_iff.2 fun member hmember => ?_
  obtain ⟨old, hold, heq | heq⟩ := mem_mount_adjust hmember
  · rw [heq]
    exact fits_declare (hm old hold)
  · rw [heq]
    exact hm old hold

/-- The edited members are read as the entries that rendering makes. -/
theorem forall₂_routes (names : List String) (base : String)
    {t : Table PathEntry} {rms : Table Json}
    (h : List.Forall₂ PathEntry.IsMemberFrom t rms)
    (hm : ∀ m ∈ rms, m.2.Distinct) :
    List.Forall₂ PathEntry.IsMemberFrom
      (mount base (adjust designatedRoute (.append (names.map .mandatory))
        t))
      (mount base (adjust designatedRoute (declare names) rms)) := by
  induction h with
  | nil => exact .nil
  | @cons entry member t rms he _ ih =>
      obtain ⟨hfirst, hrest⟩ := List.forall_mem_cons.1 hm
      refine .cons ?_ (ih hrest)
      obtain ⟨hkey, hfrom⟩ := he
      dsimp only
      by_cases hk : entry.1 = designatedRoute
      · rw [if_pos hk, if_pos (hkey ▸ hk)]
        exact ⟨congrArg (base ++ ·) hkey, isFrom_declare hfrom hfirst⟩
      · rw [if_neg hk, if_neg (hkey ▸ hk)]
        exact ⟨congrArg (base ++ ·) hkey, hfrom⟩

-- --------------------------------------------------------- documents

/-- The edited document stays within the limit of the document. -/
theorem fits_document {base : String} (hv : v.Fits (n + 7)) :
    (document base names v).Fits (n + 7) := by
  unfold document
  split
  · next ms =>
    have hm := fits_obj_iff.1 hv
    refine fits_put hm (fits_routes ?_)
    unfold routeMembers
    split
    · next rms h => exact hm _ (mem_of_get?_eq_some h)
    · exact fits_obj_iff.2 (List.forall_mem_nil _)
  · exact hv

/-- A document that was read has its entries in fresh slots. -/
theorem routes_eq_fresh {d : Document} (h : d.IsFromMembers ms) :
    d.routes = Routes.fresh 0 d.routes.entries := by
  have hp := h.paths
  unfold Document.routes
  generalize d.paths = paths at hp
  generalize lastOf ms "paths" = found at hp
  cases hp with
  | none => rfl
  | some hrs =>
      obtain ⟨rms, entries, rfl, -, rfl⟩ := hrs
      show _ = Routes.fresh 0 (mapValues Slot.entry (Routes.fresh 0 _))
      rw [Routes.mapValues_fresh]
      rfl

/-- The edited JSON is read as the document with the edited routes. -/
theorem isFrom_document {d : Document} (h : d.IsFrom v)
    (hd : v.Distinct) (base : String) (names : List String) :
    ∃ e : Document, e.IsFrom (document base names v)
      ∧ e.version = d.version ∧ e.extras = d.extras
      ∧ e.paths.map Routes.entries = some (mount base (adjust
        designatedRoute (.append (names.map .mandatory))
        d.routes.entries)) := by
  obtain ⟨ms, rfl, h⟩ := h
  have hall := h.forall₂ hd
  have hpaths := distinct_routeMembers hd
  have hedited := distinct_routes names base hpaths
  have hentries := forall₂_routes names base hall
    (distinct_obj_iff.1 hpaths).2
  have hn := (distinct_obj_iff.1 hedited).1
  rw [← PathEntry.keys_eq hentries] at hn
  -- the document is the old one with the entries that the edited members
  -- are read as
  refine ⟨{ d with paths := some (Routes.fresh 0 (mount base (adjust
    designatedRoute (.append (names.map .mandatory))
    d.routes.entries))) }, ⟨_, rfl, ?_, ?_, ?_⟩, rfl, rfl, ?_⟩
  · rw [lastOf_put hd, if_neg (by decide)]
    exact h.version
  · rw [lastOf_put hd, if_pos rfl]
    refine .some ⟨_, _, rfl, hentries, ?_⟩
    rw [ofPairs_eq_self hn]
  · rw [extrasOf_put hd hedited (by decide)]
    exact h.extras
  · exact congrArg some (Routes.mapValues_fresh 0 _)

end Edit

-- ============================================================ rendering

/-- What a store loads is read from the JSON that its template is. -/
theorem TemplateStore.isFrom_of_load {store : TemplateStore}
    {bytes : List UInt8} {v : Json} {d : Document}
    (hraw : store.raw.bytes? = some bytes)
    (hread : Json.read bytes = .ok v) (hload : store.load = .ok d) :
    d.IsFrom v := by
  unfold TemplateStore.load TemplateStore.parse at hload
  rw [mapError_eq_ok_iff, Document.parse_eq_ok_iff hraw, hread] at hload
  obtain ⟨w, hw, h⟩ := hload
  cases hw
  exact h

/-- Rendering a template that is accepted never fails, and gives the text
of the document that the edited template is read as, however the edited
template is spelled. The path and the names are texts here, without
halves of surrogate pairs. -/
theorem Render.render_eq_edit {store : TemplateStore}
    {bytes : List UInt8} {v : Json} {d : Document}
    (hraw : store.raw.bytes? = some bytes)
    (hread : Json.read bytes = .ok v) (hload : store.load = .ok d)
    (hdistinct : v.Distinct) (hwhole : v.Throughout IsWhole)
    (base : String) (names : List String) :
    ∃ text log,
      render .standard store base (names.map .str) = .ok (text, log)
      ∧ ∀ edited : String,
        (Edit.document base names v).IsText edited.toList →
        ∃ e, Document.parse (.text edited) = .ok e
          ∧ textOf e = .ok text := by
  have hfrom := TemplateStore.isFrom_of_load hraw hread hload
  have hfits := fits_of_read hread hwhole
  have hedited : (Edit.document base names v).Fits
      (Reader.levelLimit + 1) := Edit.fits_document (n := 194) hfits
  have hfresh : d.routes = Routes.fresh 0 d.routes.entries := by
    obtain ⟨ms, rfl, hms⟩ := hfrom
    exact Edit.routes_eq_fresh hms
  have hn : (keys d.routes.entries).Nodup := by
    unfold Routes.entries
    rw [keys_mapValues]
    exact hfrom.sound.routes.nodup
  -- the document in memory, and the one read from the edited template
  obtain ⟨r, log, hbuild, hsound, hversion, hextras, hpaths⟩ :=
    build_standard hload hfresh hn base names
  obtain ⟨e, he, heversion, heextras, hepaths⟩ :=
    Edit.isFrom_document hfrom hdistinct base names
  have hsame : Document.SameContent r e :=
    ⟨hversion.trans heversion.symm, hpaths.trans hepaths.symm,
      hextras.trans heextras.symm⟩
  have hwritten := he.fits hedited
  have hlevels : e.toJson.levels ≤ depthLimit :=
    Nat.le_trans hwritten.levels (by decide)
  have hwritable : r.IsWritable := by
    intro key
    rw [hsame.extras]
    exact he.isWritable key
  have htext : textOf r = .ok e.toJson.compact := by
    rw [← hsame.toJson_eq] at hlevels ⊢
    exact Document.textOf_eq_ok hwritable hlevels
  refine ⟨e.toJson.compact, log, ?_, ?_⟩
  · unfold render
    rw [hbuild]
    dsimp only
    rw [htext]
  · intro edited htexts
    refine ⟨e, ?_, Document.textOf_eq_ok he.isWritable hlevels⟩
    exact Document.parse_text_eq_ok_iff.2
      ⟨_, read_of_isText htexts hedited, he⟩

/-- A template with a parameter of its own at the designated route, which
is mounted under `/v1` with one name more. -/
theorem Render.render_eq_edit_tenant :
    ∃ text log,
      render .standard ⟨.text (Json.obj [("openapi", .str "3.1.0"),
          ("paths", .obj [("/graph", .obj [("parameters", .arr
            [Edit.declaration "q"])])])]).compact⟩
        "/v1" [.str "tenant"] = .ok (text, log)
      ∧ ∀ edited : String,
        (Json.obj [("openapi", .str "3.1.0"),
          ("paths", .obj [("/v1/graph", .obj [("parameters", .arr
            [Edit.declaration "q", Edit.declaration "tenant"])])])]).IsText
          edited.toList →
        ∃ e, Document.parse (.text edited) = .ok e
          ∧ textOf e = .ok text := by
  have hv : (Json.obj [("openapi", .str "3.1.0"),
      ("paths", .obj [("/graph", .obj [("parameters", .arr
        [Edit.declaration "q"])])])]).Fits (Reader.levelLimit + 1) := by
    decide
  exact render_eq_edit rfl (read_compact hv)
    (TemplateStore.load_compact hv rfl) (by decide) hv.whole "/v1"
    ["tenant"]

end ApiMount
