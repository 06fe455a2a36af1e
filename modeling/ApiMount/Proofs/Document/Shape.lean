/-
What a template makes does not depend on the name (`shape_cases`). A name
is filled in under `name`, and nothing that tells the kinds of entries
apart is looked up there: neither a target nor a place, nor the flag and
the schema. So a template makes the same parameter for every name but for
the name itself, or something else for every name, or nothing for any.

A list of names therefore fares alike throughout: all become query
parameters, or none does, or the first one already fails
(`buildAll_of_makes`, `buildAll_of_unfit`, `exists_error_of_shapeless`).
Where no name fails, all together make what each makes (`eq_of_buildAll`).
-/
import ApiMount.Proofs.Document.Building
import ApiMount.Proofs.Render.Edit

namespace ApiMount

open Json Table

-- ========================================================= filling in

/-- The parameter under another name. -/
def Parameter.named (p : Parameter) (name : String) : Parameter :=
  { p with name }

section

variable {ms : Table Json} (hd : (Json.obj ms).Distinct) (a b : Json)

include hd

/-- No field but the name is found elsewhere when another name is filled
in. -/
theorem lastOf_put_name {key : String} (hkey : key ≠ "name") :
    lastOf (put ms "name" a) key = lastOf (put ms "name" b) key := by
  rw [lastOf_put hd, lastOf_put hd, if_neg hkey, if_neg hkey]

/-- No other field depends on the name that is put. -/
theorem field?_put_name {name second : String} (hname : name ≠ "name")
    (hsecond : second ≠ "name") :
    field? (put ms "name" a) name second
      = field? (put ms "name" b) name second := by
  unfold field?
  rw [lastOf_put_name hd a b hname, lastOf_put_name hd a b hsecond]

/-- The name that is put does not tell a reference from a parameter. -/
theorem isReference_put_name :
    isReference (put ms "name" a) = isReference (put ms "name" b) := by
  have hkeys : "$ref" ∈ keys (put ms "name" a)
      ↔ "$ref" ∈ keys (put ms "name" b) := by
    rw [← not_iff_not, ← lastOf_eq_none_iff, ← lastOf_eq_none_iff,
      lastOf_put_name hd a b (by decide)]
  unfold isReference
  rw [Bool.eq_iff_iff, has_iff, has_iff]
  exact hkeys

end

section

variable {ms : Table Json} {p : Parameter} {r : Reference} {a : String}

/-- With another name filled in, a parameter is read as itself under that
name. -/
theorem Parameter.IsFrom.named (hd : (Json.obj ms).Distinct)
    (h : p.IsFrom (put ms "name" (.str a))) (b : String) :
    (p.named b).IsFrom (put ms "name" (.str b)) := by
  -- the extras are what no field has taken, and the schema takes the same
  -- one of its two names for both
  have hfield : field? (put ms "name" (.str a)) "schema" "schema_"
      = field? (put ms "name" (.str b)) "schema" "schema_" :=
    field?_put_name hd _ _ (by decide) (by decide)
  have htaken : taken (put ms "name" (.str a))
      = taken (put ms "name" (.str b)) := by
    unfold taken
    rw [hfield]
  have hname : "name" ∈ taken (put ms "name" (.str b)) :=
    List.mem_append_left _ List.mem_cons_self
  have hextras (s : String) : extrasOf (put ms "name" (.str s))
      (taken (put ms "name" (.str b)))
        = extrasOf ms (taken (put ms "name" (.str b))) := by
    have hs : (Json.str s).Distinct := trivial
    exact extrasOf_put hd hs hname
  refine ⟨?_, ?_, ?_, ?_, ?_⟩
  -- each field but the name is found where it was
  · rw [lastOf_put_name hd (.str b) (.str a) (by decide)]
    exact h.location
  · rw [lastOf_put hd, if_pos rfl]
    rfl
  · rw [lastOf_put_name hd (.str b) (.str a) (by decide)]
    exact h.required
  · rw [← hfield]
    exact h.schema
  · show p.extras = _
    rw [h.extras, htaken, hextras, hextras]

/-- With another name filled in, a reference still is one. -/
theorem Reference.IsFrom.exists_named (hd : (Json.obj ms).Distinct)
    (h : r.IsFrom (put ms "name" (.str a))) (b : String) :
    ∃ s : Reference, s.IsFrom (put ms "name" (.str b)) := by
  obtain ⟨under, hunder, -⟩ := h.target
  rw [field?_put_name hd (.str a) (.str b) (by decide) (by decide)]
    at hunder
  exact ⟨⟨r.target, extrasOf _ [under]⟩, ⟨under, hunder, rfl⟩⟩

end

-- ============================================================== shapes

namespace ParameterTemplate

variable {template : ParameterTemplate} {p : Parameter} {r : Reference}
  {e : ParameterEntry}

/-- The template makes this parameter for every name, but for the
name. -/
def Makes (template : ParameterTemplate) (p : Parameter) : Prop :=
  ∀ name : String,
    template.build (.str name) = .ok (.parameter (p.named name))

/-- The template makes an entry for every name, and never a query
parameter. -/
def Unfit (template : ParameterTemplate) : Prop :=
  ∀ name : String,
    ∃ e, template.build (.str name) = .ok e ∧ e.query? = none

/-- The template makes nothing for any name. -/
def Shapeless (template : ParameterTemplate) : Prop :=
  ∀ name : String, ∃ f, template.build (.str name) = .error f

/-- A template that built one parameter makes it for any name. -/
theorem makes_of_build (hd : (Json.obj template).Distinct) {name : String}
    (h : template.build (.str name) = .ok (.parameter p)) :
    template.Makes p := by
  obtain ⟨hlevels, hfrom⟩ := build_eq_ok_iff.1 h
  intro other
  refine build_eq_ok_iff.2 ⟨hlevels, ?_⟩
  cases hfrom with
  | parameter inPlace hp =>
      rw [isReference_put_name hd _ (.str other)] at inPlace
      exact .parameter inPlace (hp.named hd other)

/-- A template that built a reference builds one for any name. -/
theorem exists_reference_of_build (hd : (Json.obj template).Distinct)
    {name : String}
    (h : template.build (.str name) = .ok (.reference r))
    (other : String) :
    ∃ s, template.build (.str other) = .ok (.reference s) := by
  obtain ⟨hlevels, hfrom⟩ := build_eq_ok_iff.1 h
  cases hfrom with
  | reference points hr =>
      rw [isReference_put_name hd _ (.str other),
        lastOf_put_name hd _ (.str other) (by decide)] at points
      obtain ⟨s, hs⟩ := hr.exists_named hd other
      exact ⟨s, build_eq_ok_iff.2 ⟨hlevels, .reference points hs⟩⟩

/-- What makes an entry for one name makes an entry for any other. -/
theorem exists_build (hd : (Json.obj template).Distinct) {name : String}
    (h : template.build (.str name) = .ok e) (other : String) :
    ∃ e', template.build (.str other) = .ok e' := by
  cases e with
  | parameter p => exact ⟨_, makes_of_build hd h other⟩
  | reference r =>
      obtain ⟨s, hs⟩ := exists_reference_of_build hd h other
      exact ⟨_, hs⟩

/-- What makes nothing for one name makes nothing for any. -/
theorem shapeless_of_build (hd : (Json.obj template).Distinct)
    {name : String} {f : ParameterFault}
    (h : template.build (.str name) = .error f) : template.Shapeless := by
  intro other
  cases hother : template.build (.str other) with
  | error g => exact ⟨g, rfl⟩
  | ok e =>
      obtain ⟨e', he'⟩ := exists_build hd hother name
      rw [h] at he'
      cases he'

/-- What a template makes, whatever the name: a query parameter, an entry
of another kind, or nothing. -/
theorem shape_cases (hd : (Json.obj template).Distinct) :
    (∃ p, p.location = .query ∧ template.Makes p)
      ∨ template.Unfit ∨ template.Shapeless := by
  cases hbuild : template.build (.str "") with
  | error f => exact .inr (.inr (shapeless_of_build hd hbuild))
  | ok e =>
      cases e with
      | parameter p =>
          have hmakes := makes_of_build hd hbuild
          by_cases hquery : p.location = .query
          · exact .inl ⟨p, hquery, hmakes⟩
          · exact .inr (.inl fun name =>
              ⟨_, hmakes name, if_neg hquery⟩)
      | reference r =>
          refine .inr (.inl fun name => ?_)
          obtain ⟨s, hs⟩ := exists_reference_of_build hd hbuild name
          exact ⟨_, hs, rfl⟩

-- =========================================================== all names

/-- A query parameter is built for every name, in order. -/
theorem buildAll_of_makes (hquery : p.location = .query)
    (h : template.Makes p) (names : List String) :
    template.buildAll (names.map .str) = .ok (names.map p.named, []) := by
  induction names with
  | nil => rfl
  | cons name names ih =>
      have hname : (ParameterEntry.parameter (p.named name)).query?
          = some (p.named name) := if_pos hquery
      rw [List.map_cons, buildAll_cons (h name) ih]
      unfold ParameterEntry.joining
      rw [hname]
      rfl

/-- A template that fits no name leaves all of them over. -/
theorem buildAll_of_unfit (h : template.Unfit) (names : List String) :
    template.buildAll (names.map .str) = .ok ([], names.map .str) := by
  induction names with
  | nil => rfl
  | cons name names ih =>
      obtain ⟨e, he, hother⟩ := h name
      rw [List.map_cons, buildAll_cons he ih]
      unfold ParameterEntry.joining
      rw [hother]

/-- A template that makes nothing stops at the first name. -/
theorem exists_error_of_shapeless (h : template.Shapeless)
    (name : String) (names : List String) :
    ∃ f, template.build (.str name) = .error f
      ∧ template.buildAll ((name :: names).map .str) = .error f := by
  obtain ⟨f, hf⟩ := h name
  refine ⟨f, hf, ?_⟩
  rw [List.map_cons, buildAll, hf]

/-- A template that makes an entry is not stopped by any name. -/
theorem exists_buildAll (hd : (Json.obj template).Distinct)
    (h : ¬ template.Shapeless) (names : List String) :
    ∃ made, template.buildAll (names.map .str) = .ok made := by
  rcases template.shape_cases hd with ⟨p, hquery, hp⟩ | hunfit | hnone
  · exact ⟨_, buildAll_of_makes hquery hp names⟩
  · exact ⟨_, buildAll_of_unfit hunfit names⟩
  · exact absurd hnone h

/-- The query parameter that a template makes for a name, if it makes
one. -/
def query? (template : ParameterTemplate) (name : String) :
    Option Parameter :=
  match template.build (.str name) with
  | .ok e => e.query?
  | .error _ => none

/-- What is made of all names is what is made of each. -/
theorem eq_of_buildAll {fit : List Parameter} {unfit : List Json}
    {names : List String}
    (h : template.buildAll (names.map .str) = .ok (fit, unfit)) :
    fit = names.filterMap template.query?
      ∧ unfit = (names.filter fun name =>
          (template.query? name).isNone).map .str := by
  -- each name joins what the later ones have made
  induction names generalizing fit unfit with
  | nil =>
      cases h
      exact ⟨rfl, rfl⟩
  | cons name names ih =>
      obtain ⟨e, ⟨fits, unfits⟩, hname, hnames, hmade⟩ :=
        buildAll_cons_eq_ok_iff.1 h
      obtain ⟨rfl, rfl⟩ := ih hnames
      have hquery : template.query? name = e.query? := by
        unfold query?
        rw [hname]
      unfold ParameterEntry.joining at hmade
      rw [List.filterMap_cons, List.filter_cons, hquery]
      cases he : e.query? with
      | none =>
          rw [he] at hmade
          cases hmade
          exact ⟨rfl, rfl⟩
      | some p =>
          rw [he] at hmade
          cases hmade
          exact ⟨rfl, rfl⟩

/-- The parameter that is made for a name has this name. -/
theorem name_of_query? (hd : (Json.obj template).Distinct) {name : String}
    (h : template.query? name = some p) : p.name = name := by
  unfold query? at h
  cases hname : template.build (.str name) with
  | error f =>
      rw [hname] at h
      cases h
  | ok e =>
      rw [hname] at h
      obtain ⟨rfl, -⟩ := ParameterEntry.query?_eq_some_iff.1 h
      have hsame := makes_of_build hd hname name
      rw [hname] at hsame
      injection hsame with hsame
      injection hsame with hsame
      exact congrArg Parameter.name hsame

/-- The parameters that are built have the names that fit. -/
theorem map_name_query? (hd : (Json.obj template).Distinct)
    (names : List String) :
    (names.filterMap template.query?).map (·.name)
      = names.filter fun name => (template.query? name).isSome := by
  induction names with
  | nil => rfl
  | cons name names ih =>
      rw [List.filterMap_cons, List.filter_cons]
      cases h : template.query? name with
      | none => exact ih
      | some p =>
          show p.name :: _ = name :: _
          rw [ih, name_of_query? hd h]

-- ============================================================= entries

/-- A template that can be copied and, with some name filled in, is an
entry of a parameter list. -/
def IsEntry (template : ParameterTemplate) : Prop :=
  (Json.obj template).levels ≤ copyLimit
    ∧ ∃ (name : String) (e : ParameterEntry),
      e.IsFrom (.obj (put template "name" (.str name)))

/-- A template can be read as an entry exactly if it is not shapeless. -/
theorem isEntry_iff (hd : (Json.obj template).Distinct) :
    template.IsEntry ↔ ¬ template.Shapeless := by
  constructor
  · rintro ⟨hlevels, name, e, he⟩ hnone
    obtain ⟨f, hf⟩ := hnone name
    rw [build_eq_ok_iff.2 ⟨hlevels, he⟩] at hf
    cases hf
  · intro h
    cases hbuild : template.build (.str "") with
    | ok e =>
        obtain ⟨hlevels, hfrom⟩ := build_eq_ok_iff.1 hbuild
        exact ⟨hlevels, "", e, hfrom⟩
    | error f => exact absurd (shapeless_of_build hd hbuild) h

end ParameterTemplate

end ApiMount
