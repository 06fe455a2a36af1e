/-
A set of names may be written in many ways (`Writes`): as the JSON of any
array with these items, or as a list with commas, in any order, with
repetitions and with blanks. All of them configure the same service
(`names_denote`). The settings that are loaded have that very set, and
who asks for the document gets the same answer, byte by byte, in which
each name stands once, in order of code points. And what is no array is
always a list of names that can be listed.

The way from a text to the answer has two halves that meet in the set:
`Writes.denotes` and `load_of_sets` for the settings, `handle_eq_of` and
`exists_shows` for the answer.
-/
import ApiMount.Proofs.Document.Composition
import ApiMount.Proofs.Http.Agreement
import ApiMount.Proofs.Json.Written
import ApiMount.Proofs.Settings.Sources

namespace ApiMount

open Text

-- ============================================================ the texts

namespace Settings

/-- The ways to write a set of names. -/
inductive Writes (names : NameSet) : List Char → Prop where
  | array {listed : List String} {before t after : List Char}
      (members : ∀ n, n ∈ listed ↔ loosen n ∈ names.names)
      (blankBefore : AllBlank before) (blankAfter : AllBlank after)
      (spelled : (Json.arr (listed.map .str)).SpelledAs t) :
    Writes names (before ++ t ++ after)
  | list {listed : List String} {text : List Char}
      (members : ∀ n, n ∈ listed ↔ loosen n ∈ names.names)
      (listable : ∀ n ∈ listed, IsListable n ∧ '\x00' ∉ n.toList)
      (lists : Lists text listed)
      (noArray : (trim text).head? ≠ some '[') :
    Writes names text

variable {names : NameSet} {text : List Char}

/-- Whatever way the set is written, the text denotes it. -/
theorem Writes.denotes (h : Writes names text)
    (hplain : ∀ n ∈ names.names, n.any LooseChar.isHalf = false) :
    Denotes text names := by
  cases h with
  | array members blankBefore blankAfter spelled =>
      have hdenotes := denotes_array blankBefore blankAfter spelled
      rwa [ofList_eq hplain members] at hdenotes
  | list members listable lists noArray =>
      have hdenotes := denotes_list noArray
      rwa [namesListed_of_lists lists fun n hn => (listable n hn).1,
        ofList_eq hplain members] at hdenotes

/-- The character that no variable can hold is no blank. -/
theorem isBlank_nul : isBlank '\x00' = false := by
  decide

/-- The character that no variable can hold stands in no text of the
grammar. -/
theorem noNul_of_mayStand {t : List Char} (h : Json.MayStand t) :
    '\x00' ∉ t := by
  intro hmem
  exact absurd (h _ hmem) (by decide)

/-- A character that stands in no piece, and is no comma, stands not
between them. -/
theorem not_mem_intercalate {c : Char} (hc : c ≠ ',') :
    {pieces : List (List Char)} → (∀ piece ∈ pieces, c ∉ piece) →
    c ∉ [','].intercalate pieces
  | [], _ => List.not_mem_nil
  | [piece], h => by
    rw [List.intercalate_singleton]
    exact h piece List.mem_cons_self
  | piece :: next :: rest, h => by
    obtain ⟨hpiece, hrest⟩ := List.forall_mem_cons.1 h
    rw [List.intercalate_cons_cons, List.mem_append, List.mem_append,
      not_or, not_or, List.mem_singleton]
    exact ⟨⟨hpiece, hc⟩, not_mem_intercalate hc hrest⟩

/-- No such text holds a NUL, so all of them can be variables. -/
theorem Writes.noNul (h : Writes names text) : '\x00' ∉ text := by
  cases h with
  | array members blankBefore blankAfter spelled =>
      rw [List.mem_append, List.mem_append, not_or, not_or]
      exact ⟨⟨not_mem_of_allBlank isBlank_nul blankBefore,
        noNul_of_mayStand (Json.mayStand_of_spelled _ _ spelled)⟩,
        not_mem_of_allBlank isBlank_nul blankAfter⟩
  | @list listed _ members listable lists noArray =>
      obtain ⟨pieces, hpieces, hfound, htext⟩ := lists
      subst htext
      apply not_mem_intercalate (by decide)
      intro piece hpiece
      obtain ⟨⟨_, name?⟩, hpair, hfst⟩ := List.mem_map.1 hpiece
      obtain ⟨before, after, hbefore, hafter, heq⟩ := hpieces _ hpair
      dsimp only at hfst heq
      subst hfst
      have hmiddle : '\x00' ∉ name?.elim [] String.toList := by
        cases name? with
        | none => exact List.not_mem_nil
        | some name =>
            have hlisted : name ∈ listed := by
              rw [← hfound]
              exact List.mem_filterMap.2 ⟨_, hpair, rfl⟩
            exact (listable name hlisted).2
      rw [heq, List.mem_append, List.mem_append, not_or, not_or]
      exact ⟨⟨not_mem_of_allBlank isBlank_nul hbefore, hmiddle⟩,
        not_mem_of_allBlank isBlank_nul hafter⟩

/-- The text gives the set: wherever it is set for the mandatory
parameters, the settings are loaded with that set, and all else is as it
would be without. -/
def Gives (text : List Char) (names : NameSet) : Prop :=
  ∀ {sources others s}, load sources = .ok s → Sets sources text others →
    load others = .ok (s.withNames names)

/-- Settings that were loaded with a path and with a text for the
set. -/
inductive LoadedWith (names : NameSet) (base : String) :
    Settings → Prop where
  | intro {text : List Char} {sources others : Sources} {s t : Settings}
      (writes : Writes names text) (before : load sources = .ok s)
      (path : s.pathPrefix = base) (sets : Sets sources text others)
      (after : load others = .ok t) :
    LoadedWith names base t

/-- What was loaded with a path and a set of names has that path and that
set. -/
theorem LoadedWith.eq {base : String} {t : Settings}
    (h : LoadedWith names base t)
    (hplain : ∀ n ∈ names.names, n.any LooseChar.isHalf = false) :
    t.pathPrefix = base ∧ t.mandatoryParams = names := by
  obtain ⟨writes, before, path, sets, after⟩ := h
  rw [load_of_sets before sets (writes.denotes hplain)] at after
  cases after
  exact ⟨path, rfl⟩

end Settings

-- =========================================================== the answer

/-- The text is that of a document in which the designated route, if it
is described in place, has each name once, behind the parameters that it
had. The names stand in the set's order. -/
def Document.Shows (d : Document) (base : String) (names : NameSet)
    (body : String) : Prop :=
  ∃ e : Document, Render.textOf e = .ok body
    ∧ ∀ i, d.entry? "/graph" = some (.item i) →
      ∃ (i' : PathItem) (listed : List String),
        e.entry? (base ++ "/graph") = some (.item i')
          ∧ i'.parameters.getD [] = i.parameters.getD []
            ++ listed.map (fun n => .parameter (.mandatory n))
          ∧ listed.map loosen = names.names ∧ listed.Nodup

namespace Http

variable {s t : Settings} {store : TemplateStore} {d : Document}

/-- An answer depends on no more of the settings than the path and the
set of names. -/
theorem handle_eq_of (hpath : s.pathPrefix = t.pathPrefix)
    (hnames : s.mandatoryParams = t.mandatoryParams)
    (site : Site) (source : TemplateSource) (r : Request) :
    handle site s source r = handle site t source r := by
  have hserve (e : Endpoint) : serve s source e = serve t source e := by
    cases e with
    | liveness => rfl
    | readiness => rfl
    | document =>
        unfold serve serveDocument
        rw [hpath, hnames]
  unfold handle dispatched
  simp only [hserve]

/-- Names without halves are texts, each of them once. -/
theorem exists_listed {names : NameSet}
    (hplain : ∀ n ∈ names.names, n.any LooseChar.isHalf = false) :
    ∃ listed, names.names.map tighten = listed
      ∧ listed.map loosen = names.names ∧ listed.Nodup := by
  have hloosen : (names.names.map tighten).map loosen = names.names := by
    rw [List.map_map]
    apply (List.map_congr_left _).trans (List.map_id _)
    intro n hn
    exact loosen_tighten (hplain n hn)
  have hnodup : names.names.Nodup := by
    apply names.ascending.imp
    intro m n hlt heq
    subst heq
    exact not_lt_self m hlt
  refine ⟨_, rfl, hloosen, ?_⟩
  rw [← hloosen] at hnodup
  apply List.Pairwise.of_map loosen _ hnodup
  intro m n hne heq
  exact hne (congrArg loosen heq)

/-- Where the template is a document, the answer is a document that
shows the names. -/
theorem exists_shows (hload : store.load = .ok d)
    (hplain : ∀ n ∈ s.mandatoryParams.names,
      n.any LooseChar.isHalf = false) :
    ∃ body,
      (answer s store .document).Says 200 "application/json" body
        ∧ d.Shows s.pathPrefix s.mandatoryParams body := by
  obtain ⟨listed, hlisted, hloosen, hnodup⟩ := exists_listed hplain
  obtain ⟨hfresh, hn⟩ := TemplateStore.fresh_of_load hload
  obtain ⟨e, log, hbuild, -, -, -, hpaths⟩ :=
    Render.build_standard hload hfresh hn s.pathPrefix listed
  obtain ⟨body, told, hrender⟩ :=
    Render.exists_renderNames hload s.pathPrefix hplain
  have hsays := says_of_renderNames hrender
  rw [Render.renderNames_eq_render hplain, hlisted] at hrender
  refine ⟨body, hsays, e, Render.textOf_of_render hbuild hrender, ?_⟩
  intro i hi
  -- the designated route is found again under the prefix
  have hentry : e.entry? (s.pathPrefix ++ "/graph")
      = (d.entry? "/graph").map (.append (listed.map .mandatory)) := by
    rw [Document.entry?_eq_get?_entries, Document.entry?_eq_get?_entries,
      Document.entries_routes hpaths, Table.get?_mount]
    exact Table.get?_adjust_self _ _ _
  obtain ⟨hlist, -⟩ := i.getD_append (listed.map .mandatory)
  refine ⟨i.append (listed.map .mandatory), listed, ?_, ?_, hloosen,
    hnodup⟩
  · rw [hentry, hi]
    rfl
  · rw [hlist, List.map_map]
    rfl

end Http

-- =============================================================== names

open Settings Http

/-- All ways to write a set of names give that set, and with the same
path the same answer, which shows each name once. And every text that is
no array is accepted, as names that can be listed. -/
theorem names_denote {names : NameSet}
    (hplain : ∀ n ∈ names.names, n.any LooseChar.isHalf = false) :
    (∀ text, Writes names text → '\x00' ∉ text ∧ Gives text names)
      ∧ (∀ base s t, LoadedWith names base s → LoadedWith names base t →
        (∀ site source r, handle site s source r = handle site t source r)
          ∧ ∀ v : Visit, v.endpoint = .document →
            ∀ d, v.store.load = .ok d → ∃ body,
              (∀ site, (handle site s (.store v.store) v.request).Says 200
                  "application/json" body)
                ∧ d.Shows base names body)
      ∧ ∀ text, (trim text).head? ≠ some '[' →
        ∃ listed : List String,
          Gives text (.ofList (listed.map loosen))
            ∧ ∀ n ∈ listed, IsListable n := by
  refine ⟨?_, ?_, ?_⟩
  · intro text hwrites
    refine ⟨hwrites.noNul, ?_⟩
    intro sources others s hload hsets
    exact load_of_sets hload hsets (hwrites.denotes hplain)
  -- what two loads agree on is all that an answer looks at
  · intro base s t hs ht
    obtain ⟨hpath, hnames⟩ := hs.eq hplain
    obtain ⟨hpath', hnames'⟩ := ht.eq hplain
    refine ⟨handle_eq_of (hpath.trans hpath'.symm)
      (hnames.trans hnames'.symm), ?_⟩
    intro v hv d hd
    subst hpath hnames
    obtain ⟨body, hsays, hshows⟩ := exists_shows hd hplain
    refine ⟨body, ?_, hshows⟩
    intro site
    rw [handle_plain, hv]
    exact hsays
  · intro text htext
    refine ⟨namesListed text, ?_, ?_⟩
    · intro sources others s hload hsets
      exact load_of_sets hload hsets (denotes_list htext)
    · intro n hn
      exact isListable_of_mem hn

-- ========================================================= two spellings

namespace Spellings

/-- Two names, as an array with an escape and with a repetition. -/
def array : List Char := "\u2003[\"\\u00e9\", \"A\",\"A\" ]\n".toList

/-- The same names, as a list with a blank piece. -/
def list : List Char := " A ,, é\u00a0,A".toList

/-- The set of both. -/
def names : NameSet := .ofList [loosen "A", loosen "é"]

/-- Sources with a path alone. -/
def sources : Sources := ⟨[("PATH_PREFIX", "/v1")], "", []⟩

/-- The sources with the array in a variable. -/
def withArray : Sources :=
  { sources with environment :=
      [("PATH_PREFIX", "/v1"), ("MANDATORY_PARAMS", String.ofList array)] }

/-- The sources with the list as an argument. -/
def withList : Sources :=
  { sources with arguments :=
      [("mandatory_params", .str (String.ofList list))] }

/-- The settings that the path alone gives. -/
def settings : Settings := { standard with pathPrefix := "/v1" }

/-- A document with the designated route and nothing else. -/
def document : Document :=
  ⟨"3.1.0", some [("/graph", ⟨0, .item ⟨none, []⟩⟩)], []⟩

/-- Somebody asks for the document. -/
def visit : Visit :=
  { store := ⟨.text (Json.obj [("openapi", .str "3.1.0"),
      ("paths", .obj [("/graph", .obj [])])]).compact⟩
    endpoint := .document
    request := ⟨"localhost", "GET", "/openapi", []⟩
    method := rfl
    target := rfl
    noOrigin := rfl }

/-- The names of the example, one of them beyond ASCII. -/
theorem mem_names (n : String) :
    loosen n ∈ names.names ↔ n = "A" ∨ n = "é" := by
  unfold names
  rw [NameSet.mem_names_ofList, List.mem_pair]
  constructor
  · exact Or.imp loosen_injective loosen_injective
  · exact Or.imp (congrArg loosen) (congrArg loosen)

theorem writes_array : Writes names array := by
  have hquoted : Json.IsQuoted "é" "\"\\u00e9\"".toList :=
    ⟨['\\', 'u', '0', '0', 'e', '9'],
      .numbered ⟨0, 0, 14, 9, rfl, rfl, rfl, rfl, rfl⟩ (.inl (by decide))
        .nil, rfl⟩
  have hplain := Json.isQuoted_quoted "A"
  have hspace : Json.IsBlank [' '] := by
    intro c hc
    exact .inl (List.mem_singleton.1 hc)
  have hspelled : (Json.arr (["é", "A", "A"].map .str)).SpelledAs
      "[\"\\u00e9\", \"A\",\"A\" ]".toList := by
    refine ⟨"\"\\u00e9\", \"A\",\"A\" ".toList, ?_, rfl⟩
    refine ⟨_, _, Json.amid_self hquoted,
      ⟨_, _, Json.amid_append hspace (Json.amid_self hplain), ?_, rfl⟩,
      rfl⟩
    exact ⟨[], _, [' '], Json.isBlank_nil, hplain, hspace, rfl⟩
  have hmembers (n : String) :
      n ∈ ["é", "A", "A"] ↔ loosen n ∈ names.names := by
    rw [mem_names]
    simp [or_comm]
  exact .array hmembers (allBlank_singleton (c := '\u2003') rfl)
    (allBlank_singleton (c := '\n') rfl) hspelled

/-- A name of one character can stand in a list. -/
theorem isListable_singleton {c : Char} (hblank : isBlank c = false)
    (hcomma : ',' ≠ c) : IsListable (String.ofList [c]) := by
  have hself (d : Char) (hd : d ∈ some c) : isBlank d = false := by
    cases hd
    exact hblank
  refine ⟨?_, ?_, ?_⟩
  · intro e
    have hnil := String.toList_eq_nil_iff.2 e
    rw [String.toList_ofList] at hnil
    cases hnil
  · rw [String.toList_ofList]
    exact ⟨hself, hself⟩
  · rw [String.toList_ofList, List.mem_singleton]
    exact hcomma

/-- A list with blanks and a repeated name. -/
theorem lists_list : Lists list ["A", "é", "A"] := by
  have hspace : AllBlank [' '] := allBlank_singleton rfl
  have hwide : AllBlank ['\u00a0'] := allBlank_singleton rfl
  refine ⟨[(" A ".toList, some "A"), ([], none),
    (" é\u00a0".toList, some "é"), ("A".toList, some "A")], ?_, rfl, rfl⟩
  intro pair hpair
  simp only [List.mem_cons, List.not_mem_nil, or_false] at hpair
  rcases hpair with rfl | rfl | rfl | rfl
  · exact ⟨[' '], [' '], hspace, hspace, rfl⟩
  · exact ⟨[], [], allBlank_nil, allBlank_nil, rfl⟩
  · exact ⟨[' '], ['\u00a0'], hspace, hwide, rfl⟩
  · exact ⟨[], [], allBlank_nil, allBlank_nil, rfl⟩

theorem writes_list : Writes names list := by
  have hmembers (n : String) :
      n ∈ ["A", "é", "A"] ↔ loosen n ∈ names.names := by
    rw [mem_names]
    simp [or_comm]
  refine .list hmembers ?_ lists_list (by decide)
  intro n hn
  rcases (mem_names n).1 ((hmembers n).1 hn) with rfl | rfl
  · exact ⟨isListable_singleton (c := 'A') rfl (by decide), by decide⟩
  · exact ⟨isListable_singleton (c := 'é') rfl (by decide), by decide⟩

theorem load_sources : load sources = .ok settings := by
  have hfile : fileValues sources = .ok [] := by
    unfold fileValues
    rw [fileVariables_eq_nil rfl]
    rfl
  exact load_eq_ok_iff.2 ⟨[("path_prefix", .str (loosen "/v1"))], [], rfl,
    hfile, rfl, rfl⟩

theorem sets_array : Sets sources array withArray := by
  have hbefore : setVariables [("PATH_PREFIX", .str "/v1")]
      = .ok sources.environment := rfl
  have hafter : setVariables ([("PATH_PREFIX", .str "/v1")]
        ++ [("MANDATORY_PARAMS", .str (String.ofList array))])
      = .ok withArray.environment := by
    rw [setVariables_append hbefore]
    rfl
  have hother : ∀ key ∈ Table.keys sources.environment,
      lower key = namesKey → key = "MANDATORY_PARAMS" := by
    intro key hkey
    rw [List.mem_singleton.1 hkey]
    decide
  have hnone : ∀ key ∈ Table.keys sources.arguments,
      lower key ≠ namesKey := by
    intro key hkey
    cases hkey
  exact .environment (by decide) hbefore hafter hother hnone
    ((fileVariables_eq_nil rfl).trans (fileVariables_eq_nil rfl).symm)

theorem sets_list : Sets sources list withList :=
  .argument (by decide)

/-- Both texts give the set of two names, and whoever asks for the
document gets one answer, in which "A" stands before "é". -/
theorem names_denote_spellings :
    (∀ n ∈ names.names, n.any LooseChar.isHalf = false)
      ∧ load withArray = .ok (settings.withNames names)
      ∧ load withList = .ok (settings.withNames names)
      ∧ (∃ body,
        (∀ site, (handle site (settings.withNames names)
            (.store visit.store) visit.request).Says 200
              "application/json" body)
          ∧ document.Shows "/v1" names body)
      ∧ ∃ listed : List String, Gives list (.ofList (listed.map loosen))
        ∧ ∀ n ∈ listed, IsListable n := by
  have hplain : ∀ n ∈ names.names, n.any LooseChar.isHalf = false := by
    decide
  have hdocument : visit.store.load = .ok document :=
    TemplateStore.load_compact (by decide) rfl
  obtain ⟨hgives, hsame, hlists⟩ := names_denote hplain
  have harray := (hgives array writes_array).2 load_sources sets_array
  have hlist := (hgives list writes_list).2 load_sources sets_list
  obtain ⟨-, hshows⟩ := hsame "/v1" _ _
    (.intro writes_array load_sources rfl sets_array harray)
    (.intro writes_list load_sources rfl sets_list hlist)
  exact ⟨hplain, harray, hlist, hshows visit rfl document hdocument,
    hlists list (by decide)⟩

end Spellings

end ApiMount
