/-
Which texts are accepted (`parse_iff`). `IsDocument` is the grammar of
documents, over JSON values without repeated keys: it says which members
must be there and of which kind, and nothing about what is read from
them. A text of such a value is accepted exactly if the value is of the
grammar.

Two fields may also go by a second name, and then a value that is not of
the grammar may be accepted, or one that is of it may not. So the values
that the theorem is about use no second name in a parameter
(`UsesFirstNames`); in a route it would not count.

An accepted value's entries have their kinds from it: a route or a
parameter is a reference exactly if it has a target, and a parameter's
location is the one that it names (`PathEntry.Suits`).
-/
import ApiMount.Proofs.Document.Members

namespace ApiMount

open Json Table

-- =============================================================== parts

/-- `p` holds of every parameter of a route, if it is no reference. -/
def HoldsInRoute (p : Table Json → Prop) : Json → Prop
  | .obj ns =>
    isReference ns = false →
      ∀ ps, Json.obj ps ∈ parameterItems ns → p ps
  | _ => True

/-- `p` holds of every parameter of every route that is no reference. -/
def HoldsInPaths (p : Table Json → Prop) : Json → Prop
  | .obj ms => ∀ member ∈ routeMembers ms, HoldsInRoute p member.2
  | _ => True

/-- The object uses no second name of a field. -/
def UsesFirstNames (ms : Table Json) : Prop :=
  "ref" ∉ keys ms ∧ "schema_" ∉ keys ms

-- ============================================================= grammar

/-- The object has a text under a key. -/
def HasText (ms : Table Json) (key : String) : Prop :=
  ∃ s, get? ms key = some (.str s)

/-- The words that stand for a flag, in small letters. -/
def flagWords : List String :=
  ["0", "1", "f", "t", "n", "y", "no", "yes", "off", "on", "false", "true"]

/-- What stands for a flag: a boolean, zero or one, or one of the words,
in capitals or small letters. -/
def StandsForFlag : Json → Prop
  | .bool _ => True
  | .int n => n = 0 ∨ n = 1
  | .float x => (x == 0.0) = true ∨ (x == 1.0) = true
  | .str s => String.ofList (s.toList.map Char.toLower) ∈ flagWords
  | _ => False

/-- A parameter: a reference, or what names its place and itself. -/
def IsParameter (ps : Table Json) : Prop :=
  HasText ps "$ref"
    ∨ get? ps "$ref" = none
      ∧ (∃ word ∈ ["query", "header", "path", "cookie"],
        get? ps "in" = some (.str word))
      ∧ HasText ps "name"
      ∧ (∀ v, get? ps "required" = some v → StandsForFlag v)
      ∧ (∀ v, get? ps "schema" = some v → v = .null ∨ ∃ t, v = .obj t)

/-- A route: a reference, or an object whose parameters, if any, are a
list. -/
def IsRoute (ns : Table Json) : Prop :=
  HasText ns "$ref"
    ∨ get? ns "$ref" = none
      ∧ ∀ v, get? ns "parameters" = some v →
        ∃ items, v = .arr items
          ∧ ∀ item ∈ items, ∃ ps, item = .obj ps ∧ IsParameter ps

/-- A document: an object with a version whose routes, if any, are an
object. -/
def IsDocument (v : Json) : Prop :=
  ∃ ms, v = .obj ms ∧ HasText ms "openapi"
    ∧ ∀ w, get? ms "paths" = some w →
      ∃ rms, w = .obj rms
        ∧ ∀ member ∈ rms, ∃ ns, member.2 = .obj ns ∧ IsRoute ns

-- =============================================================== kinds

/-- The kind of a parameter is the one that its object announces. -/
def ParameterEntry.Suits : ParameterEntry → Json → Prop
  | .reference _, .obj ps => "$ref" ∈ keys ps
  | .parameter p, .obj ps =>
    "$ref" ∉ keys ps ∧ get? ps "in" = some (.str p.location.word)
  | _, _ => False

/-- The kind of a route is the one that its object announces, and so are
those of its parameters. -/
def PathEntry.Suits : PathEntry → Json → Prop
  | .reference _, .obj ns => "$ref" ∈ keys ns
  | .item i, .obj ns =>
    "$ref" ∉ keys ns
      ∧ List.Forall₂ ParameterEntry.Suits (i.parameters.getD [])
        (parameterItems ns)
  | _, _ => False

/-- The routes of a document are those of the table, in order, and of the
kinds that it announces. -/
def Document.Suits (d : Document) : Json → Prop
  | .obj ms =>
    List.Forall₂
      (fun entry member => entry.1 = member.1 ∧ entry.2.Suits member.2)
      d.routes.entries (routeMembers ms)
  | _ => False

-- ================================================================ flags

/-- The words for a flag are listed. -/
theorem get?_boolWords_isSome (word : String) :
    (boolWords.get? word).isSome = true ↔ word ∈ flagWords := by
  rw [Option.isSome_iff_ne_none, Ne, get?_eq_none_iff, Decidable.not_not]
  have hkeys : (keys boolWords).Perm flagWords := by decide
  exact hkeys.mem_iff

/-- Something stands for a flag exactly if it is read as one. -/
theorem standsForFlag_iff {v : Json} :
    StandsForFlag v ↔ ∃ b, IsFlag b v := by
  unfold IsFlag
  cases v with
  | null => exact iff_of_false id nofun
  | arr items => exact iff_of_false id nofun
  | obj ms => exact iff_of_false id nofun
  | bool b => exact iff_of_true trivial ⟨b, rfl⟩
  | int n =>
      unfold readBool
      dsimp only
      -- of the numbers only zero and one are flags
      by_cases h0 : n = 0
      · rw [if_pos h0]
        exact iff_of_true (.inl h0) ⟨false, rfl⟩
      by_cases h1 : n = 1
      · rw [if_neg h0, if_pos h1]
        exact iff_of_true (.inr h1) ⟨true, rfl⟩
      rw [if_neg h0, if_neg h1]
      refine iff_of_false (not_or.2 ⟨h0, h1⟩) ?_
      intro h
      obtain ⟨b, hb⟩ := h
      split at hb <;> cases hb
  | float x =>
      unfold readBool
      dsimp only
      by_cases h0 : (x == 0.0) = true
      · rw [if_pos h0]
        exact iff_of_true (.inl h0) ⟨false, rfl⟩
      by_cases h1 : (x == 1.0) = true
      · rw [if_neg h0, if_pos h1]
        exact iff_of_true (.inr h1) ⟨true, rfl⟩
      rw [if_neg h0, if_neg h1]
      refine iff_of_false (not_or.2 ⟨h0, h1⟩) ?_
      intro h
      obtain ⟨b, hb⟩ := h
      split at hb <;> cases hb
  | str s =>
      show _ ∈ flagWords ↔ _
      rw [← get?_boolWords_isSome]
      unfold readBool
      dsimp only
      cases boolWords.get? (String.ofList (s.toList.map Char.toLower)) with
      | none => exact iff_of_false Bool.false_ne_true nofun
      | some b => exact iff_of_true rfl ⟨b, rfl⟩

/-- A field that may be absent is read as something if it is absent or
what it holds is read. -/
theorem exists_rel_iff {α β : Type} {R : α → β → Prop}
    {found : Option β} :
    (∃ a, Option.Rel R a found) ↔ ∀ v, found = some v → ∃ a, R a v := by
  cases found with
  | none => exact iff_of_true ⟨none, .none⟩ nofun
  | some v =>
      constructor
      · intro h w hw
        obtain ⟨a, h⟩ := h
        cases hw
        cases h with
        | some h => exact ⟨_, h⟩
      · intro h
        obtain ⟨a, ha⟩ := h v rfl
        exact ⟨some a, .some ha⟩

/-- A list is read as something if each of its items is. -/
theorem exists_forall₂_iff {α β : Type} {R : α → β → Prop}
    {bs : List β} :
    (∃ as, List.Forall₂ R as bs) ↔ ∀ b ∈ bs, ∃ a, R a b := by
  induction bs with
  | nil => exact iff_of_true ⟨[], .nil⟩ (List.forall_mem_nil _)
  | cons b bs ih =>
      rw [List.forall_mem_cons, ← ih]
      constructor
      · intro h
        obtain ⟨as, h⟩ := h
        cases h with
        | cons hab hrest => exact ⟨⟨_, hab⟩, ⟨_, hrest⟩⟩
      · intro h
        obtain ⟨⟨a, hab⟩, as, hrest⟩ := h
        exact ⟨a :: as, .cons hab hrest⟩

-- ========================================================== parameters

section

variable {ms : List (String × Json)}

section

variable (hn : (keys ms).Nodup)
  (hfirst : "$ref" ∈ keys ms ∨ "ref" ∉ keys ms)

include hn hfirst

/-- A reference that is not read from a second name. -/
theorem Reference.isFrom_iff {r : Reference} :
    r.IsFrom ms
      ↔ get? ms "$ref" = some (.str r.target)
        ∧ r.extras = extrasOf ms ["$ref"] := by
  have htarget : field? ms "$ref" "ref"
      = (get? ms "$ref").map ("$ref", ·) := by
    rw [field?_first hfirst, lastOf_eq_get? hn]
  constructor
  · intro h
    obtain ⟨under, hunder, hextras⟩ := h
    rw [htarget, Option.map_eq_some_iff] at hunder
    obtain ⟨v, hv, heq⟩ := hunder
    cases heq
    exact ⟨hv, hextras⟩
  · intro h
    obtain ⟨hv, hextras⟩ := h
    refine ⟨"$ref", ?_, hextras⟩
    rw [htarget, hv]
    rfl

/-- A reference is read from what has a text for a target. -/
theorem exists_reference_iff :
    (∃ r : Reference, r.IsFrom ms) ↔ HasText ms "$ref" := by
  simp only [Reference.isFrom_iff hn hfirst]
  constructor
  · intro h
    obtain ⟨r, htarget, -⟩ := h
    exact ⟨r.target, htarget⟩
  · intro h
    obtain ⟨s, hs⟩ := h
    exact ⟨⟨s, extrasOf ms ["$ref"]⟩, hs, rfl⟩

end

/-- A place is read from one of its four words. -/
theorem location_word_iff {v : Json} :
    (∃ l : Location, v = .str l.word)
      ↔ ∃ word ∈ ["query", "header", "path", "cookie"],
        v = .str word := by
  constructor
  · intro h
    obtain ⟨l, rfl⟩ := h
    refine ⟨l.word, ?_, rfl⟩
    cases l <;> decide
  · intro h
    obtain ⟨word, hmem, rfl⟩ := h
    simp only [List.mem_cons, List.not_mem_nil, or_false] at hmem
    rcases hmem with rfl | rfl | rfl | rfl
    · exact ⟨.query, rfl⟩
    · exact ⟨.header, rfl⟩
    · exact ⟨.path, rfl⟩
    · exact ⟨.cookie, rfl⟩

/-- A schema is read from an object or from `null`, whatever the object
holds. -/
theorem isSchema_iff {v : Json} :
    (∃ s, IsSchema s v) ↔ v = .null ∨ ∃ t, v = .obj t := by
  constructor
  · intro h
    obtain ⟨s, h⟩ := h
    cases s with
    | none => exact .inl h
    | some t =>
        obtain ⟨ms, hms, -⟩ := h
        exact .inr ⟨ms, hms⟩
  · intro h
    rcases h with rfl | ⟨t, rfl⟩
    · exact ⟨none, rfl⟩
    · exact ⟨some (tidyTable t), t, rfl, rfl⟩

/-- A parameter is read from what names its place and itself. -/
theorem exists_parameter_iff (hn : (keys ms).Nodup)
    (hfirst : "schema" ∈ keys ms ∨ "schema_" ∉ keys ms) :
    (∃ p : Parameter, p.IsFrom ms)
      ↔ (∃ word ∈ ["query", "header", "path", "cookie"],
          get? ms "in" = some (.str word))
        ∧ HasText ms "name"
        ∧ (∀ v, get? ms "required" = some v → StandsForFlag v)
        ∧ ∀ v, get? ms "schema" = some v →
          v = .null ∨ ∃ t, v = .obj t := by
  -- with the first name in use the schema is found under it
  have hschema : (field? ms "schema" "schema_").map Prod.snd
      = get? ms "schema" := by
    rw [field?_first hfirst, lastOf_eq_get? hn, Option.map_map]
    exact Option.map_id' (x := get? ms "schema")
  constructor
  · intro h
    obtain ⟨p, location, name, required, schema, -⟩ := h
    rw [lastOf_eq_get? hn] at location name required
    rw [hschema] at schema
    refine ⟨?_, ⟨p.name, name⟩, ?_, ?_⟩
    · obtain ⟨word, hword, heq⟩ := location_word_iff.1 ⟨p.location, rfl⟩
      exact ⟨word, hword, location.trans (congrArg some heq)⟩
    · intro v hv
      exact standsForFlag_iff.2 (exists_rel_iff.1 ⟨_, required⟩ v hv)
    · intro v hv
      exact isSchema_iff.1 (exists_rel_iff.1 ⟨_, schema⟩ v hv)
  · intro h
    obtain ⟨⟨word, hword, location⟩, ⟨name, hname⟩, required, schema⟩ := h
    -- each field can be read for itself, and the extras are never refused
    obtain ⟨l, hl⟩ := location_word_iff.2 ⟨word, hword, rfl⟩
    obtain ⟨r, hr⟩ := exists_rel_iff.2 fun v hv =>
      standsForFlag_iff.1 (required v hv)
    obtain ⟨sch, hs⟩ := exists_rel_iff.2 fun v hv =>
      isSchema_iff.2 (schema v hv)
    refine ⟨⟨l, name, r, sch, extrasOf ms (Parameter.taken ms)⟩,
      ?_, ?_, ?_, ?_, rfl⟩
    · rw [lastOf_eq_get? hn, location, hl]
    · rw [lastOf_eq_get? hn, hname]
    · rw [lastOf_eq_get? hn]
      exact hr
    · rw [hschema]
      exact hs

/-- A key that has a text is there. -/
theorem mem_keys_of_hasText {key : String} (h : HasText ms key) :
    key ∈ keys ms := by
  obtain ⟨s, hs⟩ := h
  exact mem_keys_of_get?_eq_some hs

/-- An entry of a parameter list is read from what is a parameter. -/
theorem exists_parameterEntry_iff (hn : (keys ms).Nodup)
    (hf : UsesFirstNames ms) :
    (∃ e : ParameterEntry, e.IsFrom (.obj ms)) ↔ IsParameter ms := by
  have hreference := exists_reference_iff hn (.inr hf.1)
  have hparameter := exists_parameter_iff hn (.inr hf.2)
  -- a target or none decides the kind on both sides
  constructor
  · intro h
    obtain ⟨e, he⟩ := h
    cases he with
    | reference _ hr => exact .inl (hreference.1 ⟨_, hr⟩)
    | parameter inPlace hp =>
        have hnone := isReference_eq_false_iff.1 inPlace
        exact .inr ⟨get?_eq_none_iff.2 hnone, hparameter.1 ⟨_, hp⟩⟩
  · intro h
    rcases h with h | ⟨hnone, h⟩
    · obtain ⟨r, hr⟩ := hreference.2 h
      have points : isReference ms = true :=
        has_iff.2 (mem_keys_of_hasText h)
      exact ⟨.reference r, .reference (.inl points) hr⟩
    · obtain ⟨p, hp⟩ := hparameter.2 h
      have inPlace : isReference ms = false :=
        isReference_eq_false_iff.2 (get?_eq_none_iff.1 hnone)
      exact ⟨.parameter p, .parameter inPlace hp⟩

/-- An entry is of the kind that its object announces. -/
theorem ParameterEntry.IsFrom.suits {e : ParameterEntry}
    (h : e.IsFrom (.obj ms)) (hn : (keys ms).Nodup)
    (hf : UsesFirstNames ms) : e.Suits (.obj ms) := by
  cases h with
  | reference _ hr =>
      exact mem_keys_of_hasText
        ((exists_reference_iff hn (.inr hf.1)).1 ⟨_, hr⟩)
  | parameter inPlace hp =>
      refine ⟨isReference_eq_false_iff.1 inPlace, ?_⟩
      rw [← lastOf_eq_get? hn]
      exact hp.location

-- ============================================================== routes

/-- The items of a parameter list are objects without repeated keys that
use first names. -/
def AreTidy (items : List Json) : Prop :=
  ∀ ps, Json.obj ps ∈ items → (keys ps).Nodup ∧ UsesFirstNames ps

/-- A parameter list is read from an array each of whose items can be
read. -/
theorem exists_parameterList_iff {v : Json} :
    (∃ es, IsParameterList es v)
      ↔ ∃ items, v = .arr items
        ∧ ∀ item ∈ items, ∃ e : ParameterEntry, e.IsFrom item := by
  unfold IsParameterList
  constructor
  · intro h
    obtain ⟨es, items, hv, hall⟩ := h
    exact ⟨items, hv, exists_forall₂_iff.1 ⟨es, hall⟩⟩
  · intro h
    obtain ⟨items, hv, hall⟩ := h
    obtain ⟨es, hes⟩ := exists_forall₂_iff.2 hall
    exact ⟨es, items, hv, hes⟩

/-- An item of a tidy list is read from what is an object and a
parameter. -/
theorem AreTidy.exists_iff {items : List Json} (ht : AreTidy items)
    {item : Json} (hmem : item ∈ items) :
    (∃ e : ParameterEntry, e.IsFrom item)
      ↔ ∃ ps, item = .obj ps ∧ IsParameter ps := by
  constructor
  · intro h
    obtain ⟨e, he⟩ := h
    obtain ⟨ps, rfl⟩ := he.exists_eq_obj
    obtain ⟨hn, hf⟩ := ht ps hmem
    exact ⟨ps, rfl, (exists_parameterEntry_iff hn hf).1 ⟨e, he⟩⟩
  · intro h
    obtain ⟨ps, rfl, h⟩ := h
    obtain ⟨hn, hf⟩ := ht ps hmem
    exact (exists_parameterEntry_iff hn hf).2 h

/-- The entries of tidy items suit them, one by one. -/
theorem AreTidy.suits {items : List Json} (ht : AreTidy items)
    {es : List ParameterEntry}
    (h : List.Forall₂ ParameterEntry.IsFrom es items) :
    List.Forall₂ ParameterEntry.Suits es items := by
  induction h with
  | nil => exact .nil
  | @cons e item es items he _ ih =>
      refine .cons ?_ (ih fun ps hps => ht ps (List.mem_cons_of_mem _ hps))
      obtain ⟨ps, rfl⟩ := he.exists_eq_obj
      obtain ⟨hn, hf⟩ := ht ps List.mem_cons_self
      exact he.suits hn hf

/-- The parameters of a route that is no reference are tidy if no key
stands twice and no second name is used. -/
theorem areTidy_parameterItems (hd : (Json.obj ms).Distinct)
    (hf : ∀ ps, Json.obj ps ∈ parameterItems ms → UsesFirstNames ps) :
    AreTidy (parameterItems ms) := by
  intro ps hps
  have hdistinct := distinct_parameterItems hd _ hps
  exact ⟨(distinct_obj_iff.1 hdistinct).1, hf ps hps⟩

/-- A route described in place is read from an object whose parameters,
if it has any, are a list of parameters. -/
theorem exists_item_iff (hn : (keys ms).Nodup)
    (ht : AreTidy (parameterItems ms)) :
    (∃ i : PathItem, i.IsFrom ms)
      ↔ ∀ v, get? ms "parameters" = some v →
        ∃ items, v = .arr items
          ∧ ∀ item ∈ items, ∃ ps, item = .obj ps ∧ IsParameter ps := by
  have hlist : (∃ i : PathItem, i.IsFrom ms)
      ↔ ∃ parameters, Option.Rel IsParameterList parameters
        (get? ms "parameters") := by
    rw [← lastOf_eq_get? hn]
    constructor
    · intro h
      obtain ⟨i, hi⟩ := h
      exact ⟨_, hi.parameters⟩
    · intro h
      obtain ⟨parameters, hp⟩ := h
      exact ⟨⟨parameters, extrasOf ms ["parameters"]⟩, hp, rfl⟩
  rw [hlist, exists_rel_iff]
  refine forall₂_congr fun v hv => ?_
  rw [exists_parameterList_iff]
  refine exists_congr fun items => and_congr_right fun heq => ?_
  subst heq
  rw [parameterItems_eq hv] at ht
  exact forall₂_congr fun item hitem => ht.exists_iff hitem

section

variable (hd : (Json.obj ms).Distinct)
  (hf : HoldsInRoute UsesFirstNames (.obj ms))

include hd hf

/-- A route is read from what is one. -/
theorem exists_pathEntry_iff :
    (∃ e : PathEntry, e.IsFrom (.obj ms)) ↔ IsRoute ms := by
  obtain ⟨hn, -⟩ := distinct_obj_iff.1 hd
  constructor
  · intro h
    obtain ⟨e, he⟩ := h
    cases he with
    | reference points hr =>
        have hmem := has_iff.1 points
        exact .inl ((exists_reference_iff hn (.inl hmem)).1 ⟨_, hr⟩)
    | item inPlace hi =>
        have ht := areTidy_parameterItems hd (hf inPlace)
        have hnone := isReference_eq_false_iff.1 inPlace
        exact .inr ⟨get?_eq_none_iff.2 hnone,
          (exists_item_iff hn ht).1 ⟨_, hi⟩⟩
  · intro h
    rcases h with h | ⟨hnone, h⟩
    · have hmem := mem_keys_of_hasText h
      obtain ⟨r, hr⟩ := (exists_reference_iff hn (.inl hmem)).2 h
      exact ⟨.reference r, .reference (has_iff.2 hmem) hr⟩
    · have inPlace : isReference ms = false :=
        isReference_eq_false_iff.2 (get?_eq_none_iff.1 hnone)
      have ht := areTidy_parameterItems hd (hf inPlace)
      obtain ⟨i, hi⟩ := (exists_item_iff hn ht).2 h
      exact ⟨.item i, .item inPlace hi⟩

end

/-- A route is of the kind that its object announces, and so are its
parameters. -/
theorem PathEntry.IsFrom.suits {e : PathEntry} {v : Json}
    (h : e.IsFrom v) (hd : v.Distinct)
    (hf : HoldsInRoute UsesFirstNames v) : e.Suits v := by
  cases h with
  | reference points _ => exact has_iff.1 points
  | item inPlace hi =>
      have ht := areTidy_parameterItems hd (hf inPlace)
      exact ⟨isReference_eq_false_iff.1 inPlace,
        ht.suits (hi.forall₂ (distinct_obj_iff.1 hd).1)⟩

end

-- =========================================================== documents

section

variable {v : Json}

/-- What is no object is no route, and what is one is read as one. -/
theorem exists_route_iff (hd : v.Distinct)
    (hf : HoldsInRoute UsesFirstNames v) :
    (∃ e : PathEntry, e.IsFrom v) ↔ ∃ ns, v = .obj ns ∧ IsRoute ns := by
  constructor
  · intro h
    obtain ⟨e, he⟩ := h
    obtain ⟨ns, rfl⟩ := he.exists_eq_obj
    exact ⟨ns, rfl, (exists_pathEntry_iff hd hf).1 ⟨e, he⟩⟩
  · intro h
    obtain ⟨ns, rfl, h⟩ := h
    exact (exists_pathEntry_iff hd hf).2 h

/-- A route table is read from an object each of whose members can be
read. -/
theorem exists_routes_iff :
    (∃ routes : Routes, routes.IsFrom v)
      ↔ ∃ rms, v = .obj rms
        ∧ ∀ member ∈ rms, ∃ e : PathEntry, e.IsFrom member.2 := by
  have hmember (member : String × Json) :
      (∃ entry, PathEntry.IsMemberFrom entry member)
        ↔ ∃ e : PathEntry, e.IsFrom member.2 := by
    constructor
    · intro h
      obtain ⟨entry, -, he⟩ := h
      exact ⟨entry.2, he⟩
    · intro h
      obtain ⟨e, he⟩ := h
      exact ⟨(member.1, e), rfl, he⟩
  constructor
  · intro h
    obtain ⟨routes, rms, entries, hv, hall, -⟩ := h
    refine ⟨rms, hv, fun member hmem => ?_⟩
    exact (hmember member).1 (exists_forall₂_iff.1 ⟨_, hall⟩ member hmem)
  · intro h
    obtain ⟨rms, hv, hall⟩ := h
    obtain ⟨entries, hentries⟩ := exists_forall₂_iff.2
      fun member hmem => (hmember member).2 (hall member hmem)
    exact ⟨_, rms, entries, hv, hentries, rfl⟩

variable (hd : v.Distinct) (hf : HoldsInPaths UsesFirstNames v)

include hd hf

/-- A document is read from what is one, and from nothing else. -/
theorem exists_document_iff :
    (∃ d, Document.IsFrom d v) ↔ IsDocument v := by
  unfold IsDocument Document.IsFrom
  rw [exists_comm]
  refine exists_congr fun ms => ?_
  rw [exists_and_left]
  refine and_congr_right fun hv => ?_
  subst hv
  have hn := (distinct_obj_iff.1 hd).1
  -- a version and a route table are read for themselves; what is left
  -- over is taken as it is
  have hparts : (∃ d, Document.IsFromMembers d ms)
      ↔ HasText ms "openapi"
        ∧ ∃ paths, Option.Rel Routes.IsFrom paths (get? ms "paths") := by
    rw [← lastOf_eq_get? hn]
    constructor
    · intro h
      obtain ⟨d, hversion, hpaths, -⟩ := h
      rw [lastOf_eq_get? hn] at hversion
      exact ⟨⟨_, hversion⟩, _, hpaths⟩
    · intro h
      obtain ⟨⟨version, hversion⟩, paths, hpaths⟩ := h
      rw [← lastOf_eq_get? hn] at hversion
      exact ⟨⟨version, paths, _⟩, hversion, hpaths, rfl⟩
  rw [hparts, exists_rel_iff]
  refine and_congr_right fun _ => forall₂_congr fun w hw => ?_
  -- and the table is read route by route
  rw [exists_routes_iff]
  refine exists_congr fun rms => and_congr_right fun heq => ?_
  subst heq
  have hroutes := (distinct_obj_iff.1 (distinct_routeMembers hd)).2
  rw [routeMembers_eq hw] at hroutes
  refine forall₂_congr fun member hmem => ?_
  exact exists_route_iff (hroutes member hmem)
    (hf member (by rwa [routeMembers_eq hw]))

/-- What is read from a value is of the kinds that it announces. -/
theorem Document.IsFrom.suits {d : Document} (h : d.IsFrom v) :
    d.Suits v := by
  obtain ⟨ms, rfl, h⟩ := h
  have hroutes := (distinct_obj_iff.1 (distinct_routeMembers hd)).2
  have hall := h.forall₂ hd
  show List.Forall₂ _ d.routes.entries (routeMembers ms)
  replace hf : ∀ member ∈ routeMembers ms,
    HoldsInRoute UsesFirstNames member.2 := hf
  generalize d.routes.entries = entries at hall
  generalize routeMembers ms = rms at hall hf hroutes
  induction hall with
  | nil => exact .nil
  | cons he _ ih =>
      obtain ⟨hf, hfrest⟩ := List.forall_mem_cons.1 hf
      obtain ⟨hroute, hrest⟩ := List.forall_mem_cons.1 hroutes
      exact .cons ⟨he.1, he.2.suits hroute hf⟩ (ih hfrest hrest)

end

/-- A text of a value that lies within the limits of the reader is
accepted exactly if the value is a document. What is read from it then is
of the kinds that the value announces. -/
theorem Document.parse_iff {v : Json} {text : String} {raw : Raw}
    (hraw : raw.bytes? = some (Utf8.bytes text))
    (ht : v.IsText text.toList) (hv : v.Fits (Reader.levelLimit + 1))
    (hd : v.Distinct) (hf : HoldsInPaths UsesFirstNames v) :
    ((∃ d, parse raw = .ok d) ↔ IsDocument v)
      ∧ ∀ d, parse raw = .ok d → d.Suits v := by
  -- whatever spelling of the value is given, it is read as the value
  have hread : Json.read (Utf8.bytes text) = .ok v :=
    read_of_isText ht hv
  have hparse (d : Document) : parse raw = .ok d ↔ d.IsFrom v := by
    rw [parse_eq_ok_iff hraw, hread]
    constructor
    · intro h
      obtain ⟨w, hw, h⟩ := h
      cases hw
      exact h
    · intro h
      exact ⟨v, rfl, h⟩
  refine ⟨?_, ?_⟩
  · simp only [hparse]
    exact exists_document_iff hd hf
  · intro d h
    exact ((hparse d).1 h).suits hd hf

/-- A route with a flag as a word and a parameter described elsewhere. -/
theorem Document.parse_iff_word :
    ∃ v, v = Json.obj [("openapi", .str "3.1.0"),
        ("paths", .obj [("/graph", .obj [("parameters", .arr
          [.obj [("name", .str "q"), ("in", .str "query"),
            ("required", .str "Yes")],
          .obj [("$ref", .str "#/p")]])])])]
      ∧ ∃ d, parse (.text v.compact) = .ok d ∧ d.Suits v := by
  refine ⟨_, rfl, ?_⟩
  generalize hv : Json.obj _ = v
  have hfits : v.Fits (Reader.levelLimit + 1) := by
    subst hv
    decide
  have hdistinct : v.Distinct := by
    subst hv
    decide
  have hfirst : HoldsInPaths UsesFirstNames v := by
    subst hv
    intro member hmember
    cases List.mem_singleton.1 hmember
    intro _ ps hps
    rcases List.mem_cons.1 hps with heq | hps
    · cases heq
      exact ⟨by decide, by decide⟩
    · cases List.mem_singleton.1 hps
      exact ⟨by decide, by decide⟩
  have hdocument : IsDocument v := by
    subst hv
    refine ⟨_, rfl, ⟨_, rfl⟩, ?_⟩
    intro w hw
    cases hw
    refine ⟨_, rfl, ?_⟩
    intro member hmember
    cases List.mem_singleton.1 hmember
    refine ⟨_, rfl, .inr ⟨rfl, ?_⟩⟩
    intro v hv
    cases hv
    refine ⟨_, rfl, ?_⟩
    intro item hitem
    rcases List.mem_cons.1 hitem with rfl | hitem
    · refine ⟨_, rfl, .inr ⟨rfl, ⟨"query", by decide, rfl⟩, ⟨_, rfl⟩,
        ?_, nofun⟩⟩
      intro v hv
      cases hv
      show _ ∈ flagWords
      decide
    · cases List.mem_singleton.1 hitem
      exact ⟨_, rfl, .inl ⟨_, rfl⟩⟩
  have hraw : (Raw.text v.compact).bytes?
      = some (Utf8.bytes v.compact) := rfl
  have hall := parse_iff hraw (isText_compact hfits.whole) hfits
    hdistinct hfirst
  obtain ⟨d, hd⟩ := hall.1.2 hdocument
  exact ⟨d, hd, hall.2 d hd⟩

end ApiMount
