/-
What the second names of fields do to a parameter that is read on its own
and written again. Two of its fields go by a second name: the target of a
reference by `ref`, and a schema by `schema_`.

The kind of a parameter is told by its target or by its `in`, but for one
case: an object may say in its `in` that it is a reference and have the
target under the second name (`IsDisguised`). Values of any other kind
tell theirs (`tellsKind_iff`).

What no field has taken is written as it was read. So an object comes out
with the keys that it had, unless a field was read under its second name
and is written under its first (`passesThrough_iff`). Otherwise no key
but the first names of fields has any part in whether an object is read.
-/
import ApiMount.Proofs.Document.Faithful

namespace ApiMount

open Json Table

namespace ParameterEntry

variable {ms ns : Table Json} {v : Json} {e : ParameterEntry}

-- ================================================================ kinds

/-- An object that has no target under its first name, but says that it
is a reference and has a target under its second name. -/
def IsDisguised (v : Json) : Prop :=
  ∃ ms target, v = .obj ms ∧ "$ref" ∉ keys ms
    ∧ get? ms "in" = some (.str "reference")
    ∧ get? ms "ref" = some (.str target)

/-- The value is read as the kind of parameter that it announces, if at
all. Without a target, it is refused for any `in` that is no location. -/
structure TellsKind (v : Json) : Prop where
  suits : ∀ e, ofValue v = .ok e → e.Suits v
  refused : ∀ ms word, v = .obj ms → "$ref" ∉ keys ms →
    get? ms "in" = some (.str word) →
    word ∉ ["query", "header", "path", "cookie"] →
    ∃ r, ofValue v = .error r

/-- What points elsewhere without a target says so in its `in`. -/
theorem says_reference (hn : (keys ms).Nodup)
    (points : isReference ms = true
      ∨ lastOf ms "in" = some (.str "reference"))
    (hno : "$ref" ∉ keys ms) :
    get? ms "in" = some (.str "reference") := by
  rw [← lastOf_eq_get? hn]
  exact points.resolve_left fun h => hno (has_iff.1 h)

/-- What is in disguise is read as a reference. -/
theorem exists_isFrom_of_isDisguised (hd : v.Distinct)
    (h : IsDisguised v) : ∃ r, IsFrom (.reference r) v := by
  obtain ⟨ms, target, rfl, hno, hin, href⟩ := h
  have hn := (distinct_obj_iff.1 hd).1
  rw [← lastOf_eq_get? hn] at hin href
  refine ⟨⟨target, extrasOf ms ["ref"]⟩,
    .reference (.inr hin) ⟨"ref", ?_, rfl⟩⟩
  unfold field?
  rw [lastOf_eq_none_iff.2 hno, href]
  rfl

/-- What is not in disguise is read as what it announces. -/
theorem IsFrom.suits_of_not_isDisguised (hd : v.Distinct)
    (hv : ¬ IsDisguised v) (h : e.IsFrom v) : e.Suits v := by
  cases h with
  | @reference r ms points hr =>
      have hn := (distinct_obj_iff.1 hd).1
      show "$ref" ∈ keys ms
      by_contra hno
      obtain ⟨under, hunder, -⟩ := hr.target
      unfold field? at hunder
      rw [lastOf_eq_none_iff.2 hno] at hunder
      obtain ⟨target, href, heq⟩ := Option.map_eq_some_iff.1 hunder
      cases heq
      rw [lastOf_eq_get? hn] at href
      exact hv ⟨ms, r.target, rfl, hno, says_reference hn points hno, href⟩
  | @parameter p ms inPlace hp =>
      have hn := (distinct_obj_iff.1 hd).1
      refine ⟨isReference_eq_false_iff.1 inPlace, ?_⟩
      rw [← lastOf_eq_get? hn]
      exact hp.location

/-- Where a kind must be announced to be read, nothing else is read. -/
theorem exists_error_of_suits
    (hsuits : ∀ e, ofValue (.obj ms) = .ok e → e.Suits (.obj ms))
    (hno : "$ref" ∉ keys ms) {word : String}
    (hin : get? ms "in" = some (.str word))
    (hword : word ∉ ["query", "header", "path", "cookie"]) :
    ∃ r, ofValue (.obj ms) = .error r := by
  cases hread : ofValue (.obj ms) with
  | error r => exact ⟨r, rfl⟩
  | ok e =>
      have he := hsuits e hread
      cases e with
      | reference r => exact absurd he hno
      | parameter p =>
          have hlocation := he.2
          rw [hin] at hlocation
          cases hlocation
          obtain ⟨w, hw, heq⟩ := location_word_iff.1 ⟨p.location, rfl⟩
          cases heq
          exact absurd hw hword

/-- A value tells its kind unless it is in disguise: a reference is what
has a target, and any other parameter is passed where its `in` says. -/
theorem tellsKind_iff (hd : v.Distinct) :
    TellsKind v ↔ ¬ IsDisguised v := by
  constructor
  · intro h hv
    obtain ⟨r, hr⟩ := exists_isFrom_of_isDisguised hd hv
    have hsuits := h.suits _ (ofValue_eq_ok_iff.2 hr)
    obtain ⟨ms, target, rfl, hno, -⟩ := hv
    exact hno hsuits
  · intro hv
    have hsuits (e : ParameterEntry) (h : ofValue v = .ok e) :
        e.Suits v :=
      (ofValue_eq_ok_iff.1 h).suits_of_not_isDisguised hd hv
    refine ⟨hsuits, ?_⟩
    rintro ms word rfl hno hin hword
    exact exists_error_of_suits hsuits hno hin hword

/-- A target counts, whatever stands beside it. -/
theorem tellsKind_iff_target :
    ∃ v, v = Json.obj [("in", .str "reference"), ("ref", .str "#/a"),
        ("$ref", .str "#/b")]
      ∧ v.Distinct ∧ TellsKind v := by
  refine ⟨_, rfl, by decide, (tellsKind_iff (by decide)).2 ?_⟩
  rintro ⟨ms, target, heq, hno, -⟩
  cases heq
  exact hno (by decide)

/-- An object without the key of a target that is read as a reference. -/
theorem not_tellsKind_disguised :
    ¬ TellsKind (.obj [("in", .str "reference"), ("ref", .str "x")]) := by
  intro h
  have hread : ofValue (.obj [("in", .str "reference"),
      ("ref", .str "x")])
        = .ok (.reference ⟨"x", [("in", .str "reference")]⟩) := rfl
  have hsuits : "$ref" ∈ keys [("in", Json.str "reference"),
      ("ref", .str "x")] := h.suits _ hread
  revert hsuits
  decide

-- ============================================================== passing

/-- The first names of the fields of parameters. -/
def firstNames : List String :=
  ["$ref", "in", "name", "required", "schema"]

/-- What is written has the keys of what was read; and where a key is no
field's first name, the value under it is the same. -/
structure PassesThrough (ms ns : Table Json) : Prop where
  keys : ∀ key, key ∈ keys ns ↔ key ∈ keys ms
  values : ∀ key, key ∉ firstNames → get? ns key = get? ms key

/-- A field is read under its second name. There is no target under the
first, and the object says that it is a reference, or has a schema only
under the second. -/
def UsesSecondName (ms : Table Json) : Prop :=
  "$ref" ∉ keys ms
    ∧ (get? ms "in" = some (.str "reference")
      ∨ "schema" ∉ keys ms ∧ "schema_" ∈ keys ms)

section

variable (hsecond : ¬ UsesSecondName ms)

include hsecond

/-- A reference is read from its target's first name. -/
theorem ref_of_points (hn : (keys ms).Nodup)
    (points : isReference ms = true
      ∨ lastOf ms "in" = some (.str "reference")) : "$ref" ∈ keys ms := by
  by_contra hno
  exact hsecond ⟨hno, .inl (says_reference hn points hno)⟩

/-- The schema of what is no reference is read from its first name. -/
theorem schema_first (hno : "$ref" ∉ keys ms) :
    "schema" ∈ keys ms ∨ "schema_" ∉ keys ms := by
  by_contra hneither
  rw [not_or, not_not] at hneither
  exact hsecond ⟨hno, .inr hneither⟩

end

/-- Leaving out names leaves what is found under the others. -/
theorem get?_rest {names : List String} {key : String}
    (h : key ∉ names) (t : Table Json) :
    get? (t.filter fun m => !names.contains m.1) key = get? t key := by
  rw [get?_filter fun key => !names.contains key, if_pos]
  rw [Bool.not_eq_true', Bool.eq_false_iff]
  exact fun hin => h (List.contains_iff_mem.1 hin)

/-- The same object, with fields under first names only. -/
theorem SameObject.passesThrough {names : List String}
    {related : String → Json → Json → Prop}
    (h : SameObject names related ms ns) (hnames : names ⊆ firstNames) :
    PassesThrough ms ns := by
  refine ⟨fun key => h.keys.mem_iff.symm, fun key hkey => ?_⟩
  have hnot : key ∉ names := fun hin => hkey (hnames hin)
  rw [← get?_rest hnot ns, ← h.extras, get?_rest hnot ms]

/-- The members that are written of a parameter. -/
def members : ParameterEntry → Table Json
  | .reference r => r.fields ++ r.extras
  | .parameter p => p.fields ++ p.extras

/-- An entry is written as its members. -/
theorem toJson_eq_members (e : ParameterEntry) :
    e.toJson .declared = .obj e.members := by
  cases e with
  | reference r => exact r.toJson_eq
  | parameter p => exact p.toJson_eq

/-- An entry is written alone unless what it carries is too deep. -/
theorem writeAlone_eq_ok_iff :
    e.writeAlone .declared = .ok (.obj ns)
      ↔ ns = e.members ∧ deepestMember e.carried ≤ depthLimit := by
  unfold writeAlone
  rw [toJson_eq_members]
  by_cases h : depthLimit < deepestMember e.carried
  · rw [if_pos h]
    refine iff_of_false nofun fun hwritten => ?_
    exact Nat.not_lt.2 hwritten.2 h
  · rw [if_neg h, Except.ok.injEq, Json.obj.injEq, eq_comm]
    exact (and_iff_left (Nat.not_lt.1 h)).symm

/-- A schema that was read under its second name is written. -/
theorem schema_mem_fields {p : Parameter} (hp : p.IsFrom ms)
    (hschema : "schema" ∉ keys ms) (hunder : "schema_" ∈ keys ms) :
    "schema" ∈ keys p.fields := by
  obtain ⟨w, hw⟩ := Option.ne_none_iff_exists'.1
    fun hnone => lastOf_eq_none_iff.1 hnone hunder
  have hrel := hp.schema
  unfold field? at hrel
  rw [lastOf_eq_none_iff.2 hschema, hw] at hrel
  obtain ⟨-, -, hfound, -⟩ := Parameter.get?_fields p
  generalize p.schema = schema at hrel hfound
  cases hrel with
  | some _ => exact mem_keys_of_get?_eq_some hfound

/-- A field that was read under its second name is written under its
first, which was no key. -/
theorem IsFrom.not_passesThrough (hd : (Json.obj ms).Distinct)
    (h : e.IsFrom (.obj ms)) (hsecond : UsesSecondName ms) :
    ¬ PassesThrough ms e.members := by
  obtain ⟨hno, hsecond⟩ := hsecond
  intro hpasses
  cases h with
  | reference _ _ =>
      refine hno ((hpasses.keys "$ref").1 ?_)
      exact List.mem_cons_self
  | @parameter p _ _ hp =>
      have hlocation := hp.location
      rw [lastOf_eq_get? (distinct_obj_iff.1 hd).1] at hlocation
      rcases hsecond with hin | ⟨hschema, hunder⟩
      · rw [hin] at hlocation
        injection hlocation with hlocation
        injection hlocation with hword
        exact p.location.word_ne_reference hword.symm
      · refine hschema ((hpasses.keys "schema").1 ?_)
        show "schema" ∈ Table.keys (p.fields ++ p.extras)
        rw [keys_append]
        exact List.mem_append_left _ (schema_mem_fields hp hschema hunder)

/-- Where every field is read under its first name, the object passes
through. -/
theorem IsFrom.passesThrough (hd : (Json.obj ms).Distinct)
    (h : e.IsFrom (.obj ms)) (hsecond : ¬ UsesSecondName ms) :
    PassesThrough ms e.members := by
  have hn := (distinct_obj_iff.1 hd).1
  cases h with
  | @reference r _ points hr =>
      have href := ref_of_points hsecond hn points
      have hsame := (hr.same hd (.inl href)).2
      exact SameObject.passesThrough hsame (by decide)
  | @parameter p _ inPlace hp =>
      have hfirst := schema_first hsecond
        (isReference_eq_false_iff.1 inPlace)
      have hflag : Option.Rel (fun _ _ => True) (get? ms "required")
          (p.required.map Json.bool) := by
        have hrel := hp.required
        rw [lastOf_eq_get? hn] at hrel
        generalize p.required = required at hrel
        generalize get? ms "required" = found at hrel
        cases hrel with
        | none => exact .none
        | some _ => exact .some trivial
      have hsame := hp.sameObject hd hfirst (fun _ _ _ => True)
        (fun _ _ => trivial) hflag
      exact SameObject.passesThrough hsame (by decide)

-- ============================================================ accepting

/-- The members under first names. -/
def firstNamed (ms : Table Json) : Table Json :=
  ms.filter fun m => firstNames.contains m.1

/-- Under a first name the same is found as before. -/
theorem get?_firstNamed {key : String} (h : key ∈ firstNames)
    (ms : Table Json) : get? (firstNamed ms) key = get? ms key := by
  unfold firstNamed
  rw [get?_filter fun key => firstNames.contains key,
    if_pos (List.contains_iff_mem.2 h)]

/-- Leaving members out brings no second name in. -/
theorem not_usesSecondName_firstNamed (hsecond : ¬ UsesSecondName ms) :
    ¬ UsesSecondName (firstNamed ms) := by
  rintro ⟨hno, hin | ⟨-, hschema⟩⟩
  · rw [← get?_eq_none_iff, get?_firstNamed (by decide),
      get?_eq_none_iff] at hno
    rw [get?_firstNamed (by decide)] at hin
    exact hsecond ⟨hno, .inl hin⟩
  · obtain ⟨w, hw⟩ := mem_keys_iff.1 hschema
    have hname : firstNames.contains "schema_" = true :=
      (List.mem_filter.1 hw).2
    exact absurd hname (by decide)

/-- Where every field is read under its first name, what is read is what
is of the grammar of parameters. -/
theorem exists_isFrom_iff (hn : (keys ms).Nodup)
    (hsecond : ¬ UsesSecondName ms) :
    (∃ e : ParameterEntry, e.IsFrom (.obj ms)) ↔ IsParameter ms := by
  constructor
  · intro h
    obtain ⟨e, he⟩ := h
    cases he with
    | reference points hr =>
        have href := ref_of_points hsecond hn points
        exact .inl ((exists_reference_iff hn (.inl href)).1 ⟨_, hr⟩)
    | parameter inPlace hp =>
        have hno := isReference_eq_false_iff.1 inPlace
        have hfirst := schema_first hsecond hno
        exact .inr ⟨get?_eq_none_iff.2 hno,
          (exists_parameter_iff hn hfirst).1 ⟨_, hp⟩⟩
  · intro h
    rcases h with h | ⟨hnone, h⟩
    · have href := mem_keys_of_hasText h
      obtain ⟨r, hr⟩ := (exists_reference_iff hn (.inl href)).2 h
      exact ⟨.reference r, .reference (.inl (has_iff.2 href)) hr⟩
    · have hno := get?_eq_none_iff.1 hnone
      have hfirst := schema_first hsecond hno
      obtain ⟨p, hp⟩ := (exists_parameter_iff hn hfirst).2 h
      exact ⟨.parameter p,
        .parameter (isReference_eq_false_iff.2 hno) hp⟩

/-- The grammar looks at first names only. -/
theorem isParameter_firstNamed (ms : Table Json) :
    IsParameter (firstNamed ms) ↔ IsParameter ms := by
  unfold IsParameter HasText
  rw [get?_firstNamed (by decide), get?_firstNamed (by decide),
    get?_firstNamed (by decide), get?_firstNamed (by decide),
    get?_firstNamed (by decide)]

/-- Whether an entry is accepted is seen from its first names. -/
theorem exists_ofValue_firstNamed (hn : (keys ms).Nodup)
    (hsecond : ¬ UsesSecondName ms) :
    (∃ e, ofValue (.obj (firstNamed ms)) = .ok e)
      ↔ ∃ e, ofValue (.obj ms) = .ok e := by
  have hn' : (keys (firstNamed ms)).Nodup := nodup_keys_filter _ hn
  simp only [ofValue_eq_ok_iff]
  rw [exists_isFrom_iff hn hsecond, ← isParameter_firstNamed,
    exists_isFrom_iff hn' (not_usesSecondName_firstNamed hsecond)]

/-- What is read is written under the keys under which it was read, with
what is no field unchanged, exactly if no field was read under its second
name, and if what it carries unread is not too deep to be written. And
where no second name is used, the members under other keys have no part in
whether the object is read. -/
theorem passesThrough_iff (hd : (Json.obj ms).Distinct) :
    (∀ e, ofValue (.obj ms) = .ok e →
      ((∃ ns, e.writeAlone .declared = .ok (.obj ns)
          ∧ PassesThrough ms ns)
        ↔ ¬ UsesSecondName ms ∧ deepestMember e.carried ≤ depthLimit))
    ∧ (¬ UsesSecondName ms →
      ((∃ e, ofValue (.obj (firstNamed ms)) = .ok e)
        ↔ ∃ e, ofValue (.obj ms) = .ok e)) := by
  refine ⟨fun e h => ?_,
    exists_ofValue_firstNamed (distinct_obj_iff.1 hd).1⟩
  have hfrom := ofValue_eq_ok_iff.1 h
  simp only [writeAlone_eq_ok_iff]
  constructor
  · rintro ⟨ns, ⟨rfl, hdepth⟩, hpasses⟩
    exact ⟨fun hsecond => hfrom.not_passesThrough hd hsecond hpasses,
      hdepth⟩
  · rintro ⟨hsecond, hdepth⟩
    exact ⟨e.members, ⟨rfl, hdepth⟩, hfrom.passesThrough hd hsecond⟩

/-- A parameter with both names of its schema, and with the name of a
place that is none of its fields. -/
theorem passesThrough_iff_both :
    let ms : Table Json := [("location", .str "path"), ("schema_", .int 5),
      ("in", .str "header"), ("required", .str "yes"),
      ("schema", .obj [("type", .str "string")]), ("name", .str "tenant")]
    (Json.obj ms).Distinct
      ∧ (∃ e, ofValue (.obj ms) = .ok e
        ∧ ∃ ns, e.writeAlone .declared = .ok (.obj ns)
          ∧ PassesThrough ms ns)
      ∧ ∃ e, ofValue (.obj (firstNamed ms)) = .ok e := by
  intro ms
  have hd : (Json.obj ms).Distinct := by decide
  let e : ParameterEntry := .parameter
    ⟨.header, "tenant", some true, some (some [("type", .str "string")]),
      [("location", .str "path"), ("schema_", .int 5)]⟩
  have hread : ofValue (.obj ms) = .ok e := rfl
  have hsecond : ¬ UsesSecondName ms := by
    rintro ⟨-, hin | ⟨hschema, -⟩⟩
    · injection hin with hin
      injection hin with hword
      revert hword
      decide
    · exact hschema (by decide)
  obtain ⟨hpasses, hfirst⟩ := passesThrough_iff hd
  exact ⟨hd, ⟨e, hread, (hpasses e hread).2 ⟨hsecond, by decide⟩⟩,
    (hfirst hsecond).2 ⟨e, hread⟩⟩

/-- A parameter whose schema comes out under another key. -/
theorem not_passesThrough_renamed :
    let ms : Table Json := [("in", .str "query"), ("name", .str "x"),
      ("schema_", .obj [("b", .int 2)])]
    ∃ e, ofValue (.obj ms) = .ok e
      ∧ ¬ ∃ ns, e.writeAlone .declared = .ok (.obj ns)
        ∧ PassesThrough ms ns := by
  intro ms
  let e : ParameterEntry := .parameter
    ⟨.query, "x", none, some (some [("b", .int 2)]), []⟩
  have hread : ofValue (.obj ms) = .ok e := rfl
  refine ⟨e, hread, ?_⟩
  rintro ⟨ns, hwritten, hpasses⟩
  rw [writeAlone_eq_ok_iff] at hwritten
  obtain ⟨rfl, -⟩ := hwritten
  have hkey : "schema" ∈ keys ms := (hpasses.keys "schema").1 (by decide)
  revert hkey
  decide

end ParameterEntry

end ApiMount
