/-
What a document is read from, as a relation: `d.IsFrom v` says field by
field which value each part of the document comes from. Reading succeeds
exactly where the relation holds (`Document.ofJson_eq_ok_iff`). The
relation knows neither the place in the text nor the problems that are
gathered on the way, so a value means the same wherever it stands.

Each part of a document has its relation, and one theorem that sets the
checks of that part against it.
-/
import Mathlib.Data.List.Forall2
import ApiMount.Document.Reader
import ApiMount.Proofs.Result
import ApiMount.Proofs.Table

namespace ApiMount

open Json

-- ============================================================== fields

/-- A failed check gives nothing. -/
theorem fail_ne_ok {α : Type} {path : List Place} {cause : Cause}
    {offender : Offender} {a : α} :
    Checked.fail path cause offender ≠ .ok a := by
  intro h
  cases h

/-- A field with one name only. -/
theorem field?_self (ms : List (String × Json)) (name : String) :
    field? ms name name = (lastOf ms name).map (name, ·) := by
  unfold field?
  cases lastOf ms name <;> rfl

/-- A required text is read exactly from a text that is there. -/
theorem requiredString_eq_ok_iff {path : List Place} {name : String}
    {whole : Json} {found : Option (String × Json)} {s : String} :
    requiredString path name whole found = .ok s
      ↔ ∃ under, found = some (under, .str s) := by
  constructor
  · intro h
    match found, h with
    | some (under, .str t), h =>
      cases h
      exact ⟨under, rfl⟩
    | none, h => exact absurd h fail_ne_ok
    | some (_, .null), h | some (_, .bool _), h | some (_, .int _), h
    | some (_, .float _), h | some (_, .arr _), h
    | some (_, .obj _), h => exact absurd h fail_ne_ok
  · intro h
    obtain ⟨under, rfl⟩ := h
    rfl

/-- A value is read as a flag. -/
def IsFlag (b : Bool) (v : Json) : Prop := readBool v = .ok b

/-- An optional flag is read from a flag, or from nothing. -/
theorem optionalBool_eq_ok_iff {path : List Place}
    {found : Option (String × Json)} {b : Option Bool} :
    optionalBool path found = .ok b
      ↔ Option.Rel IsFlag b (found.map Prod.snd) := by
  cases found with
  | none =>
      constructor
      · intro h
        cases h
        exact .none
      · intro h
        cases h
        rfl
  | some pair =>
      obtain ⟨under, v⟩ := pair
      unfold optionalBool
      dsimp only
      rw [Option.map_some]
      cases hv : readBool v with
      | error cause =>
          constructor
          · intro h
            exact absurd h fail_ne_ok
          · intro h
            cases h with
            | some hb =>
                unfold IsFlag at hb
                rw [hv] at hb
                cases hb
      | ok c =>
          constructor
          · intro h
            cases h
            exact .some hv
          · intro h
            cases h with
            | some hb =>
                unfold IsFlag at hb
                rw [hv] at hb
                cases hb
                rfl

/-- A value is read as a schema: an object, or `null`. -/
def IsSchema : Option (Table Json) → Json → Prop
  | none, v => v = .null
  | some t, v => ∃ ms, v = .obj ms ∧ t = tidyTable ms

/-- An optional schema is read from a schema, or from nothing. -/
theorem optionalObject_eq_ok_iff {origin : Origin} {path : List Place}
    {found : Option (String × Json)} {o : Option (Option (Table Json))} :
    optionalObject origin path found = .ok o
      ↔ Option.Rel IsSchema o (found.map Prod.snd) := by
  constructor
  · intro h
    match found, h with
    | none, h =>
      cases h
      exact .none
    | some (_, .null), h =>
      cases h
      exact .some rfl
    | some (_, .obj ms), h =>
      cases h
      exact .some ⟨ms, rfl, rfl⟩
    | some (_, .bool _), h | some (_, .int _), h | some (_, .float _), h
    | some (_, .str _), h | some (_, .arr _), h =>
      exact absurd h fail_ne_ok
  · intro h
    match found, o, h with
    | none, none, _ => rfl
    | some (_, _), some none, .some (.refl _) => rfl
    | some (_, _), some (some _), .some ⟨ms, .refl _, .refl _⟩ => rfl

-- ========================================================== references

/-- What a reference is read from. -/
structure Reference.IsFrom (r : Reference) (ms : List (String × Json)) :
    Prop where
  target : ∃ under, field? ms "$ref" "ref" = some (under, .str r.target)
    ∧ r.extras = extrasOf ms [under]

/-- The reader of references gives exactly what it can be read from. -/
theorem Reference.ofMembers_eq_ok_iff {path : List Place}
    {ms : List (String × Json)} {r : Reference} :
    Reference.ofMembers path ms = .ok r ↔ r.IsFrom ms := by
  unfold Reference.ofMembers
  rw [map_eq_ok_iff]
  constructor
  · intro h
    obtain ⟨target, h, rfl⟩ := h
    obtain ⟨under, hunder⟩ := requiredString_eq_ok_iff.1 h
    refine ⟨under, hunder, ?_⟩
    rw [hunder]
    rfl
  · intro h
    obtain ⟨under, hunder, hextras⟩ := h
    refine ⟨r.target, requiredString_eq_ok_iff.2 ⟨under, hunder⟩, ?_⟩
    rw [hunder]
    cases r
    cases hextras
    rfl

-- ========================================================== parameters

/-- The names that the fields of a parameter have taken. -/
def Parameter.taken (ms : List (String × Json)) : List String :=
  ["name", "required", "in"]
    ++ (field? ms "schema" "schema_").toList.map Prod.fst

/-- What a parameter is read from. -/
structure Parameter.IsFrom (p : Parameter) (ms : List (String × Json)) :
    Prop where
  location : lastOf ms "in" = some (.str p.location.word)
  name : lastOf ms "name" = some (.str p.name)
  required : Option.Rel IsFlag p.required (lastOf ms "required")
  schema : Option.Rel IsSchema p.schema
    ((field? ms "schema" "schema_").map Prod.snd)
  extras : p.extras = extrasOf ms (Parameter.taken ms)

/-- The reader of parameters gives exactly what it can be read from, at the
place the object says. -/
theorem Parameter.ofMembers_eq_ok_iff {origin : Origin}
    {path : List Place} {location : Location} {ms : List (String × Json)}
    {p : Parameter} (hin : lastOf ms "in" = some (.str location.word)) :
    Parameter.ofMembers origin path location ms = .ok p
      ↔ p.location = location ∧ p.IsFrom ms := by
  have hrequired : (field? ms "required" "required").map Prod.snd
      = lastOf ms "required" := by
    rw [field?_self, Option.map_map]
    exact Option.map_id' (x := lastOf ms "required")
  unfold Parameter.ofMembers
  rw [map_eq_ok_iff]
  constructor
  · intro h
    obtain ⟨⟨name, required, schema⟩, h, rfl⟩ := h
    obtain ⟨hname, h⟩ := Checked.zip_eq_ok_iff.1 h
    obtain ⟨hreq, hschema⟩ := Checked.zip_eq_ok_iff.1 h
    refine ⟨rfl, hin, ?_, ?_, optionalObject_eq_ok_iff.1 hschema, rfl⟩
    · obtain ⟨under, hunder⟩ := requiredString_eq_ok_iff.1 hname
      rw [field?_self, Option.map_eq_some_iff] at hunder
      obtain ⟨v, hv, hpair⟩ := hunder
      cases hpair
      exact hv
    · rw [← hrequired]
      exact optionalBool_eq_ok_iff.1 hreq
  · intro h
    obtain ⟨rfl, hp⟩ := h
    refine ⟨(p.name, p.required, p.schema), ?_, ?_⟩
    · refine Checked.zip_eq_ok_iff.2 ⟨?_, Checked.zip_eq_ok_iff.2 ⟨?_, ?_⟩⟩
      · refine requiredString_eq_ok_iff.2 ⟨"name", ?_⟩
        rw [field?_self, hp.name]
        rfl
      · refine optionalBool_eq_ok_iff.2 ?_
        rw [hrequired]
        exact hp.required
      · exact optionalObject_eq_ok_iff.2 hp.schema
    · have hextras := hp.extras
      cases p
      cases hextras
      rfl

/-- The location that a word names. -/
theorem Location.ofWord?_eq_some_iff {word : String} {l : Location} :
    Location.ofWord? word = some l ↔ word = l.word := by
  constructor
  · intro h
    unfold Location.ofWord? at h
    have hword := List.find?_some h
    exact (eq_of_beq hword).symm
  · rintro rfl
    exact l.ofWord?_word

/-- No two places have one word. -/
theorem Location.word_injective {l m : Location} (h : l.word = m.word) :
    l = m := by
  have hl := l.ofWord?_word
  rw [h, m.ofWord?_word] at hl
  exact (Option.some.inj hl).symm

/-- No location goes by the word for a reference. -/
theorem Location.word_ne_reference (l : Location) :
    l.word ≠ "reference" := by
  cases l <;> decide

/-- What an entry of a parameter list is read from. An object is a
reference if it has a target, and also if it says that it is one. -/
inductive ParameterEntry.IsFrom : ParameterEntry → Json → Prop where
  | reference {r : Reference} {ms : List (String × Json)}
      (points : isReference ms = true
        ∨ lastOf ms "in" = some (.str "reference"))
      (isFrom : r.IsFrom ms) : IsFrom (.reference r) (.obj ms)
  | parameter {p : Parameter} {ms : List (String × Json)}
      (inPlace : isReference ms = false) (isFrom : p.IsFrom ms) :
      IsFrom (.parameter p) (.obj ms)

namespace ParameterEntry

variable {ms : List (String × Json)} {e : ParameterEntry}

/-- What points elsewhere is read as a reference. -/
theorem isFrom_of_points (h : isReference ms = true
      ∨ lastOf ms "in" = some (.str "reference")) :
    e.IsFrom (.obj ms) ↔ ∃ r, r.IsFrom ms ∧ .reference r = e := by
  constructor
  · intro he
    cases he with
    | reference _ hr => exact ⟨_, hr, rfl⟩
    | @parameter p _ inPlace hp =>
        rcases h with h | h
        · rw [h] at inPlace
          cases inPlace
        · rw [hp.location] at h
          injection h with h
          injection h with h
          exact absurd h p.location.word_ne_reference
  · intro h
    obtain ⟨r, hr, rfl⟩ := h
    exact .reference h hr

/-- What has a location is read as a parameter there. -/
theorem isFrom_of_location {l : Location} (href : isReference ms = false)
    (hin : lastOf ms "in" = some (.str l.word)) :
    e.IsFrom (.obj ms)
      ↔ ∃ p, (p.location = l ∧ p.IsFrom ms) ∧ .parameter p = e := by
  constructor
  · intro he
    cases he with
    | reference points _ =>
        rw [href, hin] at points
        rcases points with h | h
        · cases h
        · injection h with h
          injection h with h
          exact absurd h l.word_ne_reference
    | @parameter p _ _ hp =>
        refine ⟨p, ⟨?_, hp⟩, rfl⟩
        have h := hp.location
        rw [hin] at h
        injection h with h
        injection h with h
        exact Location.word_injective h.symm
  · intro h
    obtain ⟨p, ⟨-, hp⟩, rfl⟩ := h
    exact .parameter href hp

/-- What neither points elsewhere nor has a location is no entry. -/
theorem not_isFrom (href : isReference ms = false)
    (hin : ∀ word, lastOf ms "in" = some (.str word) →
      word ≠ "reference" ∧ Location.ofWord? word = none) :
    ¬ e.IsFrom (.obj ms) := by
  intro he
  cases he with
  | reference points _ =>
      rw [href] at points
      rcases points with h | h
      · cases h
      · exact (hin _ h).1 rfl
  | @parameter p _ _ hp =>
      have hnone := (hin _ hp.location).2
      rw [p.location.ofWord?_word] at hnone
      cases hnone

theorem map_reference_eq_ok_iff {path : List Place} :
    (Reference.ofMembers path ms).map reference = .ok e
      ↔ ∃ r, r.IsFrom ms ∧ .reference r = e := by
  rw [map_eq_ok_iff]
  simp only [Reference.ofMembers_eq_ok_iff]

/-- An entry of a parameter list is read exactly from what it is from. -/
theorem ofJson_eq_ok_iff {origin : Origin} {path : List Place}
    {v : Json} : ofJson origin path v = .ok e ↔ e.IsFrom v := by
  cases v with
  | null | bool _ | int _ | float _ | str _ | arr _ =>
      constructor
      · intro h
        exact absurd h fail_ne_ok
      · intro h
        cases h
  | obj ms =>
      unfold ofJson
      dsimp only
      -- a target makes a reference of an object before its tag is asked
      -- for
      by_cases href : isReference ms = true
      · rw [if_pos href, isFrom_of_points (.inl href),
          map_reference_eq_ok_iff]
      have hplace : isReference ms = false := Bool.eq_false_iff.2 href
      rw [if_neg href]
      cases hin : lastOf ms "in" with
      | none =>
          have hnot := not_isFrom (e := e) hplace (by simp [hin])
          exact iff_of_false fail_ne_ok hnot
      | some tag =>
          cases tag with
          | str word =>
              dsimp only
              -- the one tag that is no place
              by_cases hword : word = "reference"
              · rw [if_pos hword, isFrom_of_points (.inr (hword ▸ hin)),
                  map_reference_eq_ok_iff]
              rw [if_neg hword]
              cases hl : Location.ofWord? word with
              | none =>
                  have hnot := not_isFrom (e := e) hplace
                    (by simp [hin, hword, hl])
                  exact iff_of_false fail_ne_ok hnot
              | some l =>
                  have hlword := Location.ofWord?_eq_some_iff.1 hl
                  subst hlword
                  dsimp only
                  rw [isFrom_of_location hplace hin, map_eq_ok_iff]
                  simp only [Parameter.ofMembers_eq_ok_iff hin]
          | null | bool _ | int _ | float _ | arr _ | obj _ =>
              have hnot := not_isFrom (e := e) hplace (by simp [hin])
              exact iff_of_false fail_ne_ok hnot

/-- What is read as a parameter of its own. -/
theorem ofValue_eq_ok_iff {v : Json} :
    ofValue v = .ok e ↔ e.IsFrom v := by
  unfold ofValue
  rw [mapError_eq_ok_iff, ofJson_eq_ok_iff]

/-- Only an object is read as an entry. -/
theorem IsFrom.exists_eq_obj {v : Json} (h : e.IsFrom v) :
    ∃ ms, v = .obj ms := by
  cases h with
  | reference => exact ⟨_, rfl⟩
  | parameter => exact ⟨_, rfl⟩

/-- A parameter list is read entry by entry. -/
theorem ofItems_eq_ok_iff {path : List Place} {index : Nat}
    {items : List Json} {es : List ParameterEntry} :
    Checked.all (ofItems path index items) = .ok es
      ↔ List.Forall₂ IsFrom es items := by
  rw [Checked.all_eq_ok_iff]
  induction items generalizing index es with
  | nil =>
      cases es with
      | nil => exact iff_of_true rfl .nil
      | cons e es => exact iff_of_false nofun nofun
  | cons item items ih =>
      cases es with
      | nil => exact iff_of_false nofun nofun
      | cons e es =>
          rw [ofItems, List.map_cons, List.cons.injEq, ih,
            ofJson_eq_ok_iff, List.forall₂_cons]

end ParameterEntry

-- ============================================================== routes

/-- A value is read as a parameter list. -/
def IsParameterList (es : List ParameterEntry) (v : Json) : Prop :=
  ∃ items, v = .arr items ∧ List.Forall₂ ParameterEntry.IsFrom es items

/-- What a route described in place is read from. -/
structure PathItem.IsFrom (i : PathItem) (ms : List (String × Json)) :
    Prop where
  parameters : Option.Rel IsParameterList i.parameters
    (lastOf ms "parameters")
  extras : i.extras = extrasOf ms ["parameters"]

theorem PathItem.ofMembers_eq_ok_iff {path : List Place}
    {ms : List (String × Json)} {i : PathItem} :
    PathItem.ofMembers path ms = .ok i ↔ i.IsFrom ms := by
  obtain ⟨parameters, extras⟩ := i
  unfold PathItem.ofMembers
  constructor
  · intro h
    dsimp only at h
    cases hp : lastOf ms "parameters" with
    | none =>
        rw [hp] at h
        cases h
        exact ⟨hp ▸ .none, rfl⟩
    | some v =>
        rw [hp] at h
        cases v with
        | arr items =>
            obtain ⟨es, hes, heq⟩ := map_eq_ok_iff.1 h
            cases heq
            refine ⟨?_, rfl⟩
            rw [hp]
            exact .some ⟨items, rfl,
              ParameterEntry.ofItems_eq_ok_iff.1 hes⟩
        | null | bool _ | int _ | float _ | str _ | obj _ =>
            exact absurd h fail_ne_ok
  · intro h
    obtain ⟨hp, rfl⟩ := h
    dsimp only at hp ⊢
    cases hlast : lastOf ms "parameters" with
    | none =>
        rw [hlast] at hp
        cases hp
        rfl
    | some v =>
        rw [hlast] at hp
        cases hp with
        | some hes =>
            obtain ⟨items, rfl, hes⟩ := hes
            exact map_eq_ok_iff.2
              ⟨_, ParameterEntry.ofItems_eq_ok_iff.2 hes, rfl⟩

/-- What an entry of the route table is read from. -/
inductive PathEntry.IsFrom : PathEntry → Json → Prop where
  | reference {r : Reference} {ms : List (String × Json)}
      (points : isReference ms = true) (isFrom : r.IsFrom ms) :
      IsFrom (.reference r) (.obj ms)
  | item {i : PathItem} {ms : List (String × Json)}
      (inPlace : isReference ms = false) (isFrom : i.IsFrom ms) :
      IsFrom (.item i) (.obj ms)

theorem PathEntry.ofJson_eq_ok_iff {path : List Place} {v : Json}
    {e : PathEntry} : PathEntry.ofJson path v = .ok e ↔ e.IsFrom v := by
  cases v with
  | null | bool _ | int _ | float _ | str _ | arr _ =>
      constructor
      · intro h
        exact absurd h fail_ne_ok
      · intro h
        cases h
  | obj ms =>
      unfold PathEntry.ofJson
      dsimp only
      by_cases href : isReference ms = true
      · rw [if_pos href, map_eq_ok_iff]
        simp only [Reference.ofMembers_eq_ok_iff]
        constructor
        · intro h
          obtain ⟨r, hr, rfl⟩ := h
          exact .reference href hr
        · intro h
          cases h with
          | reference _ hr => exact ⟨_, hr, rfl⟩
          | item inPlace _ => exact absurd href (by rw [inPlace]; nofun)
      · rw [if_neg href, map_eq_ok_iff]
        simp only [PathItem.ofMembers_eq_ok_iff]
        constructor
        · intro h
          obtain ⟨i, hi, rfl⟩ := h
          exact .item (Bool.eq_false_iff.2 href) hi
        · intro h
          cases h with
          | reference points _ => exact absurd points href
          | item _ hi => exact ⟨_, hi, rfl⟩

/-- Only an object is read as an entry. -/
theorem PathEntry.IsFrom.exists_eq_obj {e : PathEntry} {v : Json}
    (h : e.IsFrom v) : ∃ ms, v = .obj ms := by
  cases h with
  | reference => exact ⟨_, rfl⟩
  | item => exact ⟨_, rfl⟩

/-- What a member of the route table is read from. -/
def PathEntry.IsMemberFrom (entry : String × PathEntry)
    (member : String × Json) : Prop :=
  entry.1 = member.1 ∧ entry.2.IsFrom member.2

/-- A member of the route table is read with its key as it stands. -/
theorem PathEntry.ofMember_eq_ok_iff {member : String × Json}
    {entry : String × PathEntry} :
    PathEntry.ofMember member = .ok entry ↔ IsMemberFrom entry member := by
  obtain ⟨key, e⟩ := entry
  unfold PathEntry.ofMember
  rw [map_eq_ok_iff]
  simp only [PathEntry.ofJson_eq_ok_iff]
  constructor
  · intro h
    obtain ⟨e', he, h⟩ := h
    cases h
    exact ⟨rfl, he⟩
  · intro h
    obtain ⟨hkey, he⟩ := h
    cases hkey
    exact ⟨e, he, rfl⟩

theorem PathEntry.ofMembers_eq_ok_iff {ms : List (String × Json)}
    {entries : List (String × PathEntry)} :
    Checked.all (ms.map PathEntry.ofMember) = .ok entries
      ↔ List.Forall₂ PathEntry.IsMemberFrom entries ms := by
  rw [Checked.all_eq_ok_iff]
  induction ms generalizing entries with
  | nil =>
      cases entries with
      | nil => exact iff_of_true rfl .nil
      | cons entry entries => exact iff_of_false nofun nofun
  | cons member ms ih =>
      cases entries with
      | nil => exact iff_of_false nofun nofun
      | cons entry entries =>
          rw [List.map_cons, List.map_cons, List.cons.injEq, ih,
            PathEntry.ofMember_eq_ok_iff, List.forall₂_cons]

/-- What a route table is read from: an entry for every member, each key
once. -/
def Routes.IsFrom (routes : Routes) (v : Json) : Prop :=
  ∃ ms entries, v = .obj ms
    ∧ List.Forall₂ PathEntry.IsMemberFrom entries ms
    ∧ routes = Routes.fresh 0 (Table.ofPairs entries)

-- =========================================================== documents

namespace Document

/-- A route table is read from an object, or from nothing. -/
theorem checkPaths_eq_ok_iff {found : Option Json}
    {paths : Option Routes} :
    checkPaths found = .ok paths
      ↔ Option.Rel Routes.IsFrom paths found := by
  constructor
  · intro h
    match found, h with
    | none, h =>
      cases h
      exact .none
    | some (.obj ms), h =>
      obtain ⟨entries, hentries, heq⟩ := map_eq_ok_iff.1 h
      cases heq
      exact .some ⟨ms, entries, rfl,
        PathEntry.ofMembers_eq_ok_iff.1 hentries, rfl⟩
    | some .null, h | some (.bool _), h | some (.int _), h
    | some (.float _), h | some (.str _), h | some (.arr _), h =>
      exact absurd h fail_ne_ok
  · intro h
    match found, paths, h with
    | none, none, _ => rfl
    | some (.obj _), some _, .some ⟨_, entries, .refl _, hms, .refl _⟩ =>
      exact map_eq_ok_iff.2
        ⟨entries, PathEntry.ofMembers_eq_ok_iff.2 hms, rfl⟩

/-- What a document is read from. -/
structure IsFromMembers (d : Document) (ms : List (String × Json)) :
    Prop where
  version : lastOf ms "openapi" = some (.str d.version)
  paths : Option.Rel Routes.IsFrom d.paths (lastOf ms "paths")
  extras : d.extras
    = (extrasOf ms ["openapi", "paths"]).mapValues .json

/-- What a document is read from. -/
def IsFrom (d : Document) (v : Json) : Prop :=
  ∃ ms, v = .obj ms ∧ d.IsFromMembers ms

theorem isFrom_obj {d : Document} {ms : List (String × Json)} :
    d.IsFrom (.obj ms) ↔ d.IsFromMembers ms := by
  constructor
  · intro h
    obtain ⟨ms', heq, h⟩ := h
    cases heq
    exact h
  · intro h
    exact ⟨ms, rfl, h⟩

/-- Reading succeeds with what the value is a document of, and with
nothing else. -/
theorem ofJson_eq_ok_iff {v : Json} {d : Document} :
    ofJson v = .ok d ↔ d.IsFrom v := by
  cases v with
  | null | bool _ | int _ | float _ | str _ | arr _ =>
      constructor
      · intro h
        exact absurd h fail_ne_ok
      · intro h
        obtain ⟨ms, h, -⟩ := h
        cases h
  | obj ms =>
      unfold ofJson
      dsimp only
      rw [map_eq_ok_iff, isFrom_obj]
      constructor
      · intro h
        obtain ⟨⟨version, paths⟩, h, rfl⟩ := h
        obtain ⟨hversion, hpaths⟩ := Checked.zip_eq_ok_iff.1 h
        refine ⟨?_, checkPaths_eq_ok_iff.1 hpaths, rfl⟩
        obtain ⟨under, hunder⟩ := requiredString_eq_ok_iff.1 hversion
        rw [field?_self, Option.map_eq_some_iff] at hunder
        obtain ⟨v, hv, hpair⟩ := hunder
        cases hpair
        exact hv
      · intro h
        obtain ⟨hversion, hpaths, hextras⟩ := h
        refine ⟨(d.version, d.paths), Checked.zip_eq_ok_iff.2
          ⟨requiredString_eq_ok_iff.2 ⟨"openapi", ?_⟩,
            checkPaths_eq_ok_iff.2 hpaths⟩, ?_⟩
        · rw [field?_self, hversion]
          rfl
        · cases d
          cases hextras
          rfl

/-- A template is accepted if its bytes are JSON that is read as a
document. -/
theorem parse_eq_ok_iff {raw : Raw} {bs : List UInt8}
    (hraw : raw.bytes? = some bs) {d : Document} :
    parse raw = .ok d ↔ ∃ v, Json.read bs = .ok v ∧ d.IsFrom v := by
  unfold parse
  rw [mapError_eq_ok_iff, hraw]
  show parseBytes _ bs = .ok d ↔ _
  unfold parseBytes
  cases Json.read bs with
  | error fault =>
      constructor
      · intro h
        exact absurd h fail_ne_ok
      · intro h
        obtain ⟨v, h, -⟩ := h
        cases h
  | ok v =>
      rw [ofJson_eq_ok_iff]
      constructor
      · intro h
        exact ⟨v, rfl, h⟩
      · intro h
        obtain ⟨w, hw, h⟩ := h
        cases hw
        exact h

/-- Whatever is accepted was read from JSON. -/
theorem exists_isFrom_of_parse {raw : Raw} {d : Document}
    (h : parse raw = .ok d) :
    ∃ bytes v, raw.bytes? = some bytes ∧ Json.read bytes = .ok v
      ∧ d.IsFrom v := by
  cases hraw : raw.bytes? with
  | none =>
      unfold parse at h
      rw [mapError_eq_ok_iff, hraw] at h
      exact absurd h fail_ne_ok
  | some bytes =>
      obtain ⟨v, hread, hfrom⟩ := (parse_eq_ok_iff hraw).1 h
      exact ⟨bytes, v, rfl, hread, hfrom⟩

/-- A text is parsed exactly when it is read as JSON and that as a
document. -/
theorem parse_text_eq_ok_iff {s : String} {d : Document} :
    parse (.text s) = .ok d
      ↔ ∃ v, Json.read (Utf8.bytes s) = .ok v ∧ d.IsFrom v :=
  parse_eq_ok_iff rfl

end Document

end ApiMount
