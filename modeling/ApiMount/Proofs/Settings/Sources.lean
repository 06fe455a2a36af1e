/-
What settings become when their sources get one text more for the
mandatory parameters (`Sets`), as an argument or as a variable that
counts. Every layer is looked at key by key: what is found under a key in
values laid over others depends on what is found there in both
(`get?_layerValues`), so the values of the sources differ under one key
alone (`Differs`), where the text now stands. Settings that were accepted
are accepted again, with the set that the text denotes
(`load_of_sets`).
-/
import ApiMount.Proofs.Result
import ApiMount.Proofs.Settings.Names
import ApiMount.Proofs.Table
import ApiMount.Settings.Sources

namespace ApiMount

-- =============================================================== tables

namespace Table

variable {α : Type _}

/-- Of pairs with the same key the last is found. -/
theorem get?_ofPairs (pairs : List (String × α)) (key : String) :
    get? (ofPairs pairs) key = get? pairs.reverse key := by
  -- putting in turn, with a table that is there already
  have fold (pairs : List (String × α)) (t : Table α) :
      get? (pairs.foldl (fun t pair => put t pair.1 pair.2) t) key
        = (get? pairs.reverse key).or (get? t key) := by
    induction pairs generalizing t with
    | nil => rfl
    | cons head rest ih =>
        obtain ⟨k, v⟩ := head
        rw [List.foldl_cons, ih, get?_put, List.reverse_cons, get?_append,
          get?_cons, Option.or_assoc]
        by_cases h : key = k
        · rw [if_pos h, if_pos h]
          rfl
        · rw [if_neg h, if_neg h]
          rfl
  have h := fold pairs []
  rwa [show get? ([] : Table α) key = none from rfl, Option.or_none] at h

/-- Where every value under a key is the same, that value is found. -/
theorem get?_eq_some_of_forall {t : Table α} {key : String} {value : α}
    (hkey : key ∈ keys t) (h : ∀ v, (key, v) ∈ t → v = value) :
    get? t key = some value := by
  cases hfound : get? t key with
  | none => exact absurd hkey (get?_eq_none_iff.1 hfound)
  | some v => rw [h v (mem_of_get?_eq_some hfound)]

/-- Pairs with other keys make no difference to what is found. -/
theorem get?_ofPairs_congr {key : String} {pairs others : List (String × α)}
    (h : pairs.filter (·.1 == key) = others.filter (·.1 == key)) :
    get? (ofPairs pairs) key = get? (ofPairs others) key := by
  have found (l : List (String × α)) :
      get? l.reverse key = get? (l.filter (·.1 == key)).reverse key := by
    rw [← List.filter_reverse, get?_filter (· == key),
      if_pos (beq_self_eq_true key)]
  rw [get?_ofPairs, get?_ofPairs, found, h, ← found]

end Table

namespace Settings

open Text Table

-- =============================================================== fields

/-- No two settings have one key. -/
theorem Field.key_injective {f g : Field} (h : f.key = g.key) : f = g := by
  cases f <;> cases g <;> first | rfl | exact absurd h (by decide)

/-- The name by which the mandatory parameters are set. -/
abbrev namesKey : String := Field.mandatoryParams.key

variable {s t : Settings} {values others : Table Json.Loose}

/-- The values are accepted when each stands under the key of a setting. -/
theorem noOthers_eq_ok_iff :
    noOthers values = .ok ()
      ↔ ∀ key ∈ keys values, (Field.ofKey? key).isSome = true := by
  have hsome {found : Option Field} :
      ¬ found.isNone = true ↔ found.isSome = true := by
    cases found <;> simp
  have hfilter : (values.filter fun pair => (Field.ofKey? pair.1).isNone)
      = [] ↔ ∀ key ∈ keys values, (Field.ofKey? key).isSome = true := by
    rw [List.filter_eq_nil_iff]
    constructor
    · intro h key hkey
      obtain ⟨value, hvalue⟩ := mem_keys_iff.1 hkey
      exact hsome.1 (h (key, value) hvalue)
    · intro h pair hpair
      exact hsome.2 (h pair.1 (mem_keys_of_mem hpair))
  rw [← hfilter]
  unfold noOthers
  split
  · next hnone => exact iff_of_true rfl hnone
  · next hsome =>
      constructor
      · intro h
        cases h
      · intro h
        exact absurd h hsome

/-- Settings are accepted field by field. -/
theorem ofValues_eq_ok_iff :
    ofValues values = .ok s
      ↔ fieldOf values .pathPrefix textAt standard.pathPrefix
          = .ok s.pathPrefix
        ∧ fieldOf values .mandatoryParams namesAt standard.mandatoryParams
          = .ok s.mandatoryParams
        ∧ fieldOf values .corsOrigins textListAt standard.corsOrigins
          = .ok s.corsOrigins
        ∧ fieldOf values .logLevel textAt standard.logLevel
          = .ok s.logLevel
        ∧ fieldOf values .logFormat textAt standard.logFormat
          = .ok s.logFormat
        ∧ noOthers values = .ok () := by
  constructor
  · intro h
    unfold ofValues at h
    dsimp only at h
    split at h
    · next hchecked =>
        cases h
        simp only [Checked.zip_eq_ok_iff] at hchecked
        exact hchecked
    · cases h
  · intro h
    simp only [← Checked.zip_eq_ok_iff] at h
    unfold ofValues
    dsimp only
    rw [h]

-- ============================================================ one key

/-- Under the key of the mandatory parameters the other table has the
value, and everything else is as before. -/
structure Differs {α : Type} (t others : Table α) (value : α) : Prop where
  same : ∀ key, key ≠ namesKey → get? others key = get? t key
  found : get? others namesKey = some value

/-- The settings with another set of mandatory parameters. -/
def withNames (s : Settings) (names : NameSet) : Settings :=
  { s with mandatoryParams := names }

variable {text : List Char} {names : NameSet}

/-- Every setting but the names is read alike. -/
theorem Differs.fieldOf_eq {α : Type} {value : Json.Loose}
    (h : Differs values others value) {f : Field} (hf : f.key ≠ namesKey)
    (check : List Place → Json.Loose → Checked α) (default : α) :
    fieldOf others f check default = fieldOf values f check default := by
  unfold fieldOf
  rw [h.same f.key hf]

/-- Only the set of mandatory parameters becomes another. -/
theorem Differs.ofValues_eq (h : Differs values others (.str (loose text)))
    (htext : Denotes text names) (hs : ofValues values = .ok s) :
    ofValues others = .ok (s.withNames names) := by
  obtain ⟨hpath, -, horigins, hlevel, hformat, hothers⟩ :=
    ofValues_eq_ok_iff.1 hs
  have hnames : fieldOf others .mandatoryParams namesAt
      standard.mandatoryParams = .ok names := by
    unfold fieldOf
    rw [h.found]
    exact htext _
  -- a key of the others that is not that of the names is a key of the
  -- values
  have hkeys : noOthers others = .ok () := by
    apply noOthers_eq_ok_iff.2
    intro key hkey
    by_cases hnamesKey : key = namesKey
    · rw [hnamesKey]
      decide
    · apply noOthers_eq_ok_iff.1 hothers
      apply Classical.byContradiction
      intro hnot
      have hnone := h.same key hnamesKey
      rw [get?_eq_none_iff.2 hnot, get?_eq_none_iff] at hnone
      exact hnone hkey
  apply ofValues_eq_ok_iff.2
  rw [h.fieldOf_eq (f := .pathPrefix) (by decide),
    h.fieldOf_eq (f := .corsOrigins) (by decide),
    h.fieldOf_eq (f := .logLevel) (by decide),
    h.fieldOf_eq (f := .logFormat) (by decide)]
  exact ⟨hpath, hnames, horigins, hlevel, hformat, hkeys⟩

/-- What denotes a set is not too deep. -/
theorem Differs.tooDeep?_eq_none (h : Differs values others (.str (loose text)))
    (htext : Denotes text names) : tooDeep? others = none := by
  have haccepted := htext []
  unfold namesAt at haccepted
  unfold tooDeep?
  rw [h.found]
  dsimp only at haccepted ⊢
  cases hvalue : namesValue (tighten (loose text)) with
  | ok value => rfl
  | error fault =>
      rw [hvalue] at haccepted
      cases haccepted

-- ============================================================== layers

/-- Under every key, what is found in values laid over others. -/
theorem get?_layerValues {above : Table Json.Loose}
    (hn : (keys above).Nodup) (base : Table Json.Loose) (key : String) :
    get? (layerValues base above) key
      = match get? above key, get? base key with
        | none, found => found
        | some v, none => some v
        | some v, some below => some (layer below v) := by
  -- the members of the upper layer are put in turn, and none of them
  -- meets its own key again
  induction above generalizing base with
  | nil => rfl
  | cons head rest ih =>
      obtain ⟨name, v⟩ := head
      rw [keys_cons, List.nodup_cons] at hn
      obtain ⟨hname, hrest⟩ := hn
      have hstep : layerValues base ((name, v) :: rest)
          = layerValues (put base name
            (((get? base name).map fun below => layer below v).getD v))
            rest := by
        unfold layerValues
        rw [List.foldl_cons]
        dsimp only
        cases get? base name <;> rfl
      rw [hstep, ih hrest, get?_cons, get?_put]
      -- the first member settles its key, since the rest does not have it
      by_cases h : key = name
      · subst h
        rw [get?_eq_none_iff.2 hname, if_pos rfl, if_pos rfl]
        cases get? base key <;> rfl
      · rw [if_neg h, if_neg h]

theorem nodup_keys_layerValues {base above : Table Json.Loose}
    (hn : (keys base).Nodup) : (keys (layerValues base above)).Nodup := by
  unfold layerValues
  induction above generalizing base with
  | nil => exact hn
  | cons head rest ih =>
      rw [List.foldl_cons]
      apply ih
      dsimp only
      split
      · exact nodup_keys_put hn _ _
      · exact nodup_keys_put hn _ _

/-- What differs under the key in an upper layer differs so in the
whole. -/
theorem Differs.layered_above (h : Differs values others (.str (loose text)))
    (hn : (keys values).Nodup) (hn' : (keys others).Nodup)
    (base : Table Json.Loose) :
    Differs (layerValues base values) (layerValues base others)
      (.str (loose text)) := by
  constructor
  · intro key hkey
    rw [get?_layerValues hn, get?_layerValues hn', h.same key hkey]
  · rw [get?_layerValues hn', h.found]
    cases get? base namesKey <;> rfl

/-- So it does in a lower layer, where nothing lies above it. -/
theorem Differs.layered_below (h : Differs values others (.str (loose text)))
    {above : Table Json.Loose} (hn : (keys above).Nodup)
    (habove : get? above namesKey = none) :
    Differs (layerValues values above) (layerValues others above)
      (.str (loose text)) := by
  constructor
  · intro key hkey
    rw [get?_layerValues hn, get?_layerValues hn, h.same key hkey]
  · rw [get?_layerValues hn, habove, h.found]

-- ====================================================== written sources

section

variable {source : WrittenSource} {f : Field} {rest fields : List Field}
  {found : Table Json.Loose}

/-- The value that a source gives a field, if it does. -/
def written? (source : WrittenSource) (t : Table String) (f : Field) :
    Except LoadFailure (Option Json.Loose) :=
  match get? t f.key with
  | none => .ok none
  | some text => f.decode source text

/-- The settings of a source are read one by one, and one that is not
written gives no value. -/
theorem writtenFields_cons_eq_ok_iff {t : Table String} :
    writtenFields source t (f :: rest) = .ok found
      ↔ ∃ value? others, written? source t f = .ok value?
        ∧ writtenFields source t rest = .ok others
        ∧ found = value?.toList.map (fun v => (f.key, v)) ++ others := by
  unfold written?
  rw [writtenFields]
  cases get? t f.key with
  | none =>
      constructor
      · intro h
        exact ⟨none, found, rfl, h, rfl⟩
      · intro h
        obtain ⟨value?, others, hvalue, hothers, hfound⟩ := h
        cases hvalue
        rw [hfound]
        exact hothers
  | some text =>
      dsimp only
      rw [bind_eq_ok_iff]
      constructor
      · intro h
        obtain ⟨value?, hvalue, h⟩ := h
        obtain ⟨others, hothers, h⟩ := bind_eq_ok_iff.1 h
        cases h
        exact ⟨value?, others, hvalue, hothers, rfl⟩
      · intro h
        obtain ⟨value?, others, hvalue, hothers, hfound⟩ := h
        refine ⟨value?, hvalue, ?_⟩
        rw [hothers, hfound]
        rfl

/-- A written source gives no field twice. -/
theorem keys_writtenFields_sublist {t : Table String}
    (h : writtenFields source t fields = .ok found) :
    (keys found).Sublist (fields.map Field.key) := by
  induction fields generalizing found with
  | nil =>
      cases h
      exact List.Sublist.slnil
  | cons f rest ih =>
      obtain ⟨value?, others, -, hothers, hfound⟩ :=
        writtenFields_cons_eq_ok_iff.1 h
      subst hfound
      rw [keys_append, List.map_cons]
      cases value? with
      | none => exact (ih hothers).cons f.key
      | some v => exact (ih hothers).cons_cons f.key

/-- A source gives no setting twice. -/
theorem nodup_keys_writtenFields {t : Table String}
    (h : writtenFields source t Field.every = .ok found) :
    (keys found).Nodup :=
  (keys_writtenFields_sublist h).nodup (by decide)

/-- Where variables differ in a text, so do the fields that are read. -/
theorem Differs.exists_writtenFields {t t' : Table String}
    (ht : Differs t t' (String.ofList text))
    (h : writtenFields source t fields = .ok found) :
    ∃ found', writtenFields source t' fields = .ok found'
      ∧ (∀ key, key ≠ namesKey → get? found' key = get? found key)
      ∧ (.mandatoryParams ∈ fields →
        get? found' namesKey = some (.str (loose text))) := by
  -- the settings are read one by one; the invariant is what is found for
  -- each key so far
  induction fields generalizing found with
  | nil =>
      cases h
      refine ⟨[], rfl, fun key _ => rfl, ?_⟩
      intro hmem
      cases hmem
  | cons f rest ih =>
      obtain ⟨value?, others, hvalue, hothers, hfound⟩ :=
        writtenFields_cons_eq_ok_iff.1 h
      subst hfound
      obtain ⟨others', hothers', hsame, htext⟩ := ih hothers
      -- a setting says nothing of another one's key
      have hskip {key : String} (hkey : key ≠ f.key)
          (value? : Option Json.Loose) (others : Table Json.Loose) :
          get? (value?.toList.map (fun v => (f.key, v)) ++ others) key
            = get? others key := by
        cases value? with
        | none => rfl
        | some v => exact (get?_cons f.key v others key).trans (if_neg hkey)
      by_cases hf : f = .mandatoryParams
      · subst hf
        have hvalue' : written? source t' .mandatoryParams
            = .ok (some (.str (loose text))) := by
          unfold written?
          rw [ht.found]
          simp [Field.decode, Field.isDecoded, loosen]
        refine ⟨_, writtenFields_cons_eq_ok_iff.2
          ⟨_, _, hvalue', hothers', rfl⟩, ?_, ?_⟩
        · intro key hkey
          rw [hskip hkey, hskip hkey, hsame key hkey]
        · intro _
          exact (get?_cons namesKey _ others' namesKey).trans (if_pos rfl)
      · have hkey : f.key ≠ namesKey := by
          intro e
          exact hf (Field.key_injective e)
        have hvalue' : written? source t' f = .ok value? := by
          rw [← hvalue]
          unfold written?
          rw [ht.same f.key hkey]
        refine ⟨_, writtenFields_cons_eq_ok_iff.2
          ⟨_, _, hvalue', hothers', rfl⟩, ?_, ?_⟩
        · intro key hnames
          rw [get?_append, get?_append, hsame key hnames]
        · intro hmem
          rw [hskip (Ne.symm hkey)]
          exact htext ((List.mem_cons.1 hmem).resolve_left (Ne.symm hf))

end

-- =============================================================== sources

/-- The text is set for the mandatory parameters, in addition to what
the sources have: as an argument, in front of the others, or as a
variable. A variable counts if no argument names the field and no other
spelling of its name is set, and the file must not refer to it. -/
inductive Sets (s : Sources) (text : List Char) : Sources → Prop where
  | argument {name : String} (named : lower name = namesKey) :
    Sets s text { s with
      arguments := (name, .str (String.ofList text)) :: s.arguments }
  | environment {settings : List (String × Json)} {env : Table String}
      {name : String} (named : lower name = namesKey)
      (before : setVariables settings = .ok s.environment)
      (after : setVariables (settings ++ [(name, .str (String.ofList text))])
        = .ok env)
      (alone : ∀ key ∈ keys s.environment,
        lower key = namesKey → key = name)
      (noArgument : ∀ key ∈ keys s.arguments, lower key ≠ namesKey)
      (unreferred : fileVariables { s with environment := env }
        = fileVariables s) :
    Sets s text { s with environment := env }

-- =========================================================== variables

/-- One variable more is put into the environment, if it can be set. -/
theorem setVariables_append {settings : List (String × Json)}
    {env : Table String} (h : setVariables settings = .ok env)
    (name value : String) :
    setVariables (settings ++ [(name, .str value)])
      = match VariableFault.find? name value with
        | some fault => .error fault
        | none => .ok (put env name value) := by
  obtain ⟨pairs, hpairs, henv⟩ := map_eq_ok_iff.1 h
  subst henv
  unfold setVariables
  rw [List.mapM_append, hpairs]
  simp only [List.mapM_cons, List.mapM_nil, assignment]
  cases VariableFault.find? name value with
  | some fault => rfl
  | none =>
      simp only [bind, Except.bind, pure, Except.pure, Except.map, ofPairs,
        List.foldl_append, List.foldl_cons, List.foldl_nil]

theorem nodup_keys_setVariables {settings : List (String × Json)}
    {env : Table String} (h : setVariables settings = .ok env) :
    (keys env).Nodup := by
  obtain ⟨pairs, -, henv⟩ := map_eq_ok_iff.1 h
  rw [← henv]
  exact nodup_keys_ofPairs pairs

/-- A variable that is put into the environment counts, if no other
spelling of its name is there. -/
theorem differs_lowerKeys {env : Table String} (hn : (keys env).Nodup)
    {name : String} (named : lower name = namesKey)
    (alone : ∀ key ∈ keys env, lower key = namesKey → key = name)
    (text : List Char) :
    Differs (lowerKeys env)
      (lowerKeys (put env name (String.ofList text)))
      (String.ofList text) := by
  constructor
  · intro key hkey
    have hother : (lower name == key) = false := by
      rw [named]
      exact beq_eq_false_iff_ne.2 (Ne.symm hkey)
    unfold lowerKeys
    apply get?_ofPairs_congr
    rw [List.filter_map, List.filter_map]
    exact congrArg _ (filter_put (fun _ => hother) env _)
  -- all variables of that key in any casing are the one that was set
  · unfold lowerKeys
    rw [get?_ofPairs]
    apply get?_eq_some_of_forall
    · apply mem_keys_iff.2
      refine ⟨String.ofList text, ?_⟩
      rw [List.mem_reverse, List.mem_map]
      refine ⟨(name, String.ofList text), ?_, by rw [← named]⟩
      apply mem_of_get?_eq_some
      rw [get?_put, if_pos rfl]
    · intro v hv
      rw [List.mem_reverse, List.mem_map] at hv
      obtain ⟨⟨key, value⟩, hmem, heq⟩ := hv
      injection heq with hlower hvalue
      subst hvalue
      have hkey : key = name := by
        rcases mem_put hmem with h | h
        · injection h
        · exact alone key (mem_keys_of_mem h) hlower
      subst hkey
      have hfound := (get?_eq_some_iff
        (nodup_keys_put hn key (String.ofList text))).2 hmem
      rw [get?_put, if_pos rfl] at hfound
      injection hfound with hfound
      exact hfound.symm

-- ================================================================ files

/-- An empty file sets nothing, whatever the variables are. -/
theorem fileVariables_eq_nil {sources : Sources}
    (h : sources.file = "") : fileVariables sources = [] := by
  have hempty : SettingsFile.assignments "" = [] := by
    unfold SettingsFile.assignments
    rw [SettingsFile.entries]
    rfl
  unfold fileVariables
  rw [h, hempty]
  rfl

-- =========================================================== arguments

theorem nodup_keys_argumentValues (s : Sources) :
    (keys (argumentValues s)).Nodup := by
  unfold argumentValues
  dsimp only
  rw [keys_mapValues]
  exact nodup_keys_ofPairs _

theorem lower_namesKey : lower namesKey = namesKey := by
  decide

/-- The names are given under their key in any casing. -/
theorem argumentField?_of_named {name : String}
    (named : lower name = namesKey) :
    argumentField? name = some .mandatoryParams := by
  unfold argumentField?
  rw [named]
  rfl

/-- The arguments that name fields under the fields' names, the last one
first, then the others. -/
def argumentPairs (arguments : Table Json) : List (String × Json) :=
  (arguments.filter fun pair => (argumentField? pair.1).isSome).reverse.map
      (fun pair => (lower pair.1, pair.2))
    ++ arguments.filter fun pair => !(argumentField? pair.1).isSome

/-- Arguments are put in turn, so the last one of a setting counts. -/
theorem argumentValues_eq (s : Sources) :
    argumentValues s
      = (ofPairs (argumentPairs s.arguments)).mapValues .ofJson := by
  unfold argumentValues argumentPairs
  rw [List.partition_eq_filter_filter]
  rfl

/-- What names the field is not among the arguments that name none. -/
theorem not_mem_others (arguments : Table Json) :
    namesKey ∉ keys
      (arguments.filter fun pair => !(argumentField? pair.1).isSome) := by
  intro h
  obtain ⟨v, hv⟩ := mem_keys_iff.1 h
  have hnone := (List.mem_filter.1 hv).2
  rw [argumentField?_of_named lower_namesKey] at hnone
  cases hnone

/-- The first argument for a field counts. -/
theorem differs_argument {name : String} (named : lower name = namesKey)
    (s : Sources) (text : List Char) :
    Differs (argumentValues s)
      (argumentValues { s with
        arguments := (name, .str (String.ofList text)) :: s.arguments })
      (.str (loose text)) := by
  have hfield := argumentField?_of_named named
  -- the pairs of known settings come first, in reverse, so that the
  -- argument put first counts last
  have hpairs (v : Json) : argumentPairs ((name, v) :: s.arguments)
      = (s.arguments.filter fun pair =>
          (argumentField? pair.1).isSome).reverse.map
            (fun pair => (lower pair.1, pair.2))
        ++ (namesKey, v) :: s.arguments.filter fun pair =>
          !(argumentField? pair.1).isSome := by
    simp [argumentPairs, hfield, named]
  constructor
  · intro key hkey
    rw [argumentValues_eq, argumentValues_eq, get?_mapValues,
      get?_mapValues]
    apply congrArg
    apply get?_ofPairs_congr
    have hother : (namesKey == key) = false :=
      beq_eq_false_iff_ne.2 (Ne.symm hkey)
    rw [hpairs, argumentPairs, List.filter_append, List.filter_append,
      List.filter_cons_of_neg (by simp [hother])]
  · have hothers : get? (s.arguments.filter fun pair =>
        !(argumentField? pair.1).isSome).reverse namesKey = none := by
      apply get?_eq_none_iff.2
      unfold keys
      rw [List.map_reverse, List.mem_reverse]
      exact not_mem_others s.arguments
    rw [argumentValues_eq, get?_mapValues, get?_ofPairs, hpairs,
      List.reverse_append, List.reverse_cons, List.append_assoc,
      get?_append, hothers, Option.none_or, List.singleton_append,
      get?_cons, if_pos rfl]
    simp [Json.Loose.ofJson, loosen]

/-- Without an argument for the names, in whatever casing, arguments say
nothing of them. -/
theorem get?_argumentValues_eq_none {s : Sources}
    (h : ∀ key ∈ keys s.arguments, lower key ≠ namesKey) :
    get? (argumentValues s) namesKey = none := by
  have hpairs : namesKey ∉ keys (argumentPairs s.arguments) := by
    unfold argumentPairs
    rw [keys_append, List.mem_append, not_or]
    refine ⟨?_, not_mem_others s.arguments⟩
    intro hmem
    obtain ⟨v, hv⟩ := mem_keys_iff.1 hmem
    obtain ⟨pair, hpair, heq⟩ := List.mem_map.1 hv
    injection heq with hlower _
    have hold := (List.mem_filter.1 (List.mem_reverse.1 hpair)).1
    exact h pair.1 (mem_keys_of_mem hold) hlower
  rw [argumentValues_eq, get?_mapValues, Option.map_eq_none_iff,
    get?_eq_none_iff]
  intro hmem
  obtain ⟨v, hv⟩ := mem_keys_iff.1 hmem
  exact hpairs (mem_keys_of_mem (mem_of_mem_ofPairs hv))

-- ============================================================== loading

/-- Settings are loaded where all sources are read and their values, laid
over each other, are accepted. -/
theorem load_eq_ok_iff {sources : Sources} :
    load sources = .ok s
      ↔ ∃ environment file, environmentValues sources = .ok environment
        ∧ fileValues sources = .ok file
        ∧ tooDeep? (layerValues file
          (layerValues environment (argumentValues sources))) = none
        ∧ ofValues (layerValues file
          (layerValues environment (argumentValues sources))) = .ok s := by
  unfold load
  -- the sources are read, laid over each other, and checked last
  constructor
  · intro h
    obtain ⟨environment, henvironment, h⟩ := bind_eq_ok_iff.1 h
    obtain ⟨file, hfile, h⟩ := bind_eq_ok_iff.1 h
    dsimp only at h
    split at h
    · cases h
    · next hdeep =>
        exact ⟨environment, file, henvironment, hfile, hdeep,
          mapError_eq_ok_iff.1 h⟩
  · intro h
    obtain ⟨environment, file, henvironment, hfile, hdeep, hvalues⟩ := h
    rw [henvironment, hfile]
    simp only [bind, Except.bind, hdeep]
    exact mapError_eq_ok_iff.2 hvalues

/-- Settings that are loaded are loaded again, with the set that the
text denotes. -/
theorem load_of_sets {sources others : Sources}
    (hload : load sources = .ok s) (hsets : Sets sources text others)
    (htext : Denotes text names) :
    load others = .ok (s.withNames names) := by
  obtain ⟨environment, file, henvironment, hfile, -, hvalues⟩ :=
    load_eq_ok_iff.1 hload
  have hn := nodup_keys_writtenFields henvironment
  have harguments := nodup_keys_argumentValues sources
  -- an argument lies above all, so it settles the names; a variable does
  -- where no argument lies above it
  cases hsets with
  | argument named =>
      have hdiffers := ((differs_argument named sources text).layered_above
        harguments (nodup_keys_argumentValues _) environment).layered_above
          (nodup_keys_layerValues hn) (nodup_keys_layerValues hn) file
      exact load_eq_ok_iff.2 ⟨environment, file, henvironment, hfile,
        hdiffers.tooDeep?_eq_none htext,
        hdiffers.ofValues_eq htext hvalues⟩
  | @environment settings env name named before after alone noArgument
      unreferred =>
      have henv : env
          = put sources.environment name (String.ofList text) := by
        rw [setVariables_append before] at after
        split at after
        · cases after
        · injection after with after
          exact after.symm
      -- the difference is carried from the variables to the values of
      -- their layer, and from there through the layers
      have hvariables : Differs (lowerKeys sources.environment)
          (lowerKeys env) (String.ofList text) := by
        rw [henv]
        exact differs_lowerKeys (nodup_keys_setVariables before) named alone
          text
      obtain ⟨found, hfound, hsame, hset⟩ :=
        hvariables.exists_writtenFields henvironment
      have hfound' : environmentValues { sources with environment := env }
          = .ok found := hfound
      have hfile' : fileValues { sources with environment := env }
          = .ok file := by
        unfold fileValues at hfile ⊢
        rw [unreferred]
        exact hfile
      have hdiffers : Differs environment found (.str (loose text)) :=
        ⟨hsame, hset (by decide)⟩
      have hlayered := (hdiffers.layered_below harguments
        (get?_argumentValues_eq_none noArgument)).layered_above
          (nodup_keys_layerValues hn)
          (nodup_keys_layerValues (nodup_keys_writtenFields hfound)) file
      exact load_eq_ok_iff.2 ⟨found, file, hfound', hfile',
        hlayered.tooDeep?_eq_none htext,
        hlayered.ofValues_eq htext hvalues⟩

end Settings

end ApiMount
