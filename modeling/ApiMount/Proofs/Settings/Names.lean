/-
A text of names denotes a set. It may be the JSON of an array, with blanks
around it (`denotes_array`), or a list with commas between its pieces,
where each piece is blank or a name with blanks around it
(`namesListed_of_lists`). Which of the two it is depends on the first
character that is not blank, and every text that is no array is a list
(`denotes_list`), whose names can all be listed again
(`isListable_of_mem`). Order and repetition do not count, since names are
collected in a set (`ofList_eq`).
-/
import ApiMount.Proofs.Json.Inline.Values
import ApiMount.Proofs.Text.Blank
import ApiMount.Settings.Basic

namespace ApiMount.Settings

open Text Json

-- ======================================================= specification

/-- A name that can stand between commas. -/
structure IsListable (name : String) : Prop where
  nonempty : name ≠ ""
  stripped : IsStripped name.toList
  noComma : ',' ∉ name.toList

/-- What may stand between two commas: a name, or none, with blanks
around it. -/
def IsPiece (piece : List Char) (name? : Option String) : Prop :=
  ∃ before after, AllBlank before ∧ AllBlank after
    ∧ piece = before ++ name?.elim [] String.toList ++ after

/-- The text lists the names, with any blank pieces between them. -/
def Lists (text : List Char) (names : List String) : Prop :=
  ∃ pieces : List (List Char × Option String),
    (∀ pair ∈ pieces, IsPiece pair.1 pair.2)
    ∧ pieces.filterMap Prod.snd = names
    ∧ text = [','].intercalate (pieces.map Prod.fst)

/-- As a value for the mandatory parameters the text is the set. -/
def Denotes (text : List Char) (s : NameSet) : Prop :=
  ∀ path, namesAt path (.str (loose text)) = .ok s

-- =============================================================== lists

/-- A comma is no blank, so it does not matter whether the whole is
trimmed. -/
theorem namesListed_trim (t : List Char) :
    namesListed (trim t) = namesListed t := by
  have hcomma : isBlank ',' = false := by decide
  unfold namesListed
  rw [map_trim_splitAt_trim hcomma]

theorem toList_ne_nil {name : String} (h : name ≠ "") :
    name.toList ≠ [] := by
  intro e
  exact h (String.toList_eq_nil_iff.1 e)

/-- A piece of a list holds no comma when its name can be listed. -/
theorem IsPiece.noComma {piece : List Char} {name? : Option String}
    (h : IsPiece piece name?) (hname : ∀ n ∈ name?, IsListable n) :
    ',' ∉ piece := by
  obtain ⟨before, after, hbefore, hafter, hpiece⟩ := h
  have hcomma : isBlank ',' = false := by decide
  have hmiddle : ',' ∉ name?.elim [] String.toList := by
    cases name? with
    | none => exact List.not_mem_nil
    | some name => exact (hname name rfl).noComma
  rw [hpiece, List.mem_append, List.mem_append, not_or, not_or]
  exact ⟨⟨not_mem_of_allBlank hcomma hbefore, hmiddle⟩,
    not_mem_of_allBlank hcomma hafter⟩

/-- A trim leaves the name that stands in a piece. -/
theorem IsPiece.trim {piece : List Char} {name? : Option String}
    (h : IsPiece piece name?) (hname : ∀ n ∈ name?, IsListable n) :
    trim piece = name?.elim [] String.toList := by
  obtain ⟨before, after, hbefore, hafter, hpiece⟩ := h
  rw [hpiece]
  apply trim_padded _ hbefore hafter
  cases name? with
  | none => exact isStripped_nil
  | some name => exact (hname name rfl).stripped

/-- What is left of the pieces are the names in them. -/
theorem names_of_pieces :
    {pieces : List (List Char × Option String)} →
    (∀ pair ∈ pieces, IsPiece pair.1 pair.2) →
    (∀ pair ∈ pieces, ∀ n ∈ pair.2, IsListable n) →
    ((((pieces.map Prod.fst).map trim).filter (! ·.isEmpty)).map
        String.ofList)
      = pieces.filterMap Prod.snd
  | [], _, _ => rfl
  | (piece, name?) :: pieces, hpieces, hnames => by
    obtain ⟨hpiece, hothers⟩ := List.forall_mem_cons.1 hpieces
    obtain ⟨hname, hrest⟩ := List.forall_mem_cons.1 hnames
    have ih := names_of_pieces hothers hrest
    rw [List.map_cons, List.map_cons, hpiece.trim hname]
    cases name? with
    | none => exact ih
    | some name =>
        have hne : (! name.toList.isEmpty) = true := by
          rw [Bool.not_eq_true', List.isEmpty_eq_false_iff]
          exact toList_ne_nil (hname name rfl).nonempty
        rw [Option.elim_some, List.filter_cons, if_pos hne, List.map_cons,
          String.ofList_toList, ih]
        rfl

/-- From a list its names are taken, one by one. -/
theorem namesListed_of_lists {text : List Char} {names : List String}
    (h : Lists text names) (hnames : ∀ n ∈ names, IsListable n) :
    namesListed text = names := by
  obtain ⟨pieces, hpieces, hfound, htext⟩ := h
  subst hfound htext
  have hlistable : ∀ pair ∈ pieces, ∀ n ∈ pair.2, IsListable n := by
    intro pair hpair n hn
    exact hnames n (List.mem_filterMap.2 ⟨pair, hpair, hn⟩)
  -- no piece holds a comma, so the text is split into the pieces again
  have hnone : ∀ piece ∈ pieces.map Prod.fst, ',' ∉ piece := by
    intro piece hpiece
    obtain ⟨pair, hpair, hfst⟩ := List.mem_map.1 hpiece
    subst hfst
    exact (hpieces pair hpair).noComma (hlistable pair hpair)
  cases pieces with
  | nil => rfl
  | cons pair pieces =>
      have hne : (pair :: pieces).map Prod.fst ≠ [] :=
        List.cons_ne_nil _ _
      unfold namesListed
      rw [splitAt_intercalate hne hnone]
      exact names_of_pieces hpieces hlistable

/-- Whatever the text is, each of its names can be listed. -/
theorem isListable_of_mem {text : List Char} {name : String}
    (h : name ∈ namesListed text) : IsListable name := by
  obtain ⟨cs, hcs, hname⟩ := List.mem_map.1 h
  obtain ⟨hcs, hempty⟩ := List.mem_filter.1 hcs
  obtain ⟨piece, hpiece, htrim⟩ := List.mem_map.1 hcs
  subst hname htrim
  constructor
  · intro e
    have hnil := String.toList_eq_nil_iff.2 e
    rw [String.toList_ofList] at hnil
    rw [hnil] at hempty
    cases hempty
  · rw [String.toList_ofList]
    exact isStripped_trim piece
  · rw [String.toList_ofList]
    intro hcomma
    exact not_mem_of_mem_splitAt hpiece (mem_of_mem_trim hcomma)

-- ================================================================ sets

/-- No two texts have one loose form. -/
theorem loosen_injective {m n : String} (h : loosen m = loosen n) :
    m = n := by
  have htight := congrArg tighten h
  rwa [tighten_loosen, tighten_loosen] at htight

/-- A set is made by any list of its members. -/
theorem ofList_eq {s : NameSet} {names : List String}
    (hplain : ∀ n ∈ s.names, n.any LooseChar.isHalf = false)
    (h : ∀ n, n ∈ names ↔ loosen n ∈ s.names) :
    NameSet.ofList (names.map loosen) = s := by
  apply NameSet.ext_mem
  intro n
  rw [NameSet.mem_names_ofList, List.mem_map]
  constructor
  · intro hn
    obtain ⟨name, hname, heq⟩ := hn
    rw [← heq]
    exact (h name).1 hname
  · intro hn
    have heq := loosen_tighten (hplain n hn)
    exact ⟨tighten n, (h _).2 (heq.symm ▸ hn), heq⟩

/-- An array of texts is accepted. -/
theorem textsAt_texts (path : List Place) (texts : List LooseText) :
    textsAt path (texts.map .str) = .ok texts := by
  unfold textsAt
  rw [Checked.all_eq_ok_iff]
  apply List.ext_getElem
  · simp
  · intro i hi hi'
    simp [looseTextAt]

/-- A text whose value is an array of texts denotes those. -/
theorem denotes_of_value {text : List Char} {texts : List LooseText}
    (h : namesValue (String.ofList text) = .ok (.arr (texts.map .str))) :
    Denotes text (.ofList texts) := by
  intro path
  unfold namesAt
  dsimp only
  rw [show tighten (loose text) = String.ofList text by simp [tighten], h]
  dsimp only
  unfold nameSetAt
  dsimp only
  rw [textsAt_texts]
  rfl

-- ============================================================== arrays

/-- Texts are loosened one by one. -/
theorem ofItems_strings (names : List String) :
    Loose.ofItems (names.map .str) = (names.map loosen).map .str := by
  induction names with
  | nil => rfl
  | cons name names ih =>
      rw [List.map_cons, List.map_cons, List.map_cons, Loose.ofItems, ih]
      rfl

/-- An array of texts needs no more room than an array. -/
theorem within_strings (names : List String) :
    (Json.arr (names.map .str)).Within 1 := by
  constructor
  · have hitems : itemNesting (names.map Json.str) ≤ 0 := by
      apply itemNesting_le_iff.2
      intro item hitem
      obtain ⟨name, -, hname⟩ := List.mem_map.1 hitem
      subst hname
      exact Nat.le_refl 0
    rw [nesting]
    omega
  · apply throughout_arr_iff.2
    refine ⟨trivial, ?_⟩
    intro item hitem
    obtain ⟨name, -, hname⟩ := List.mem_map.1 hitem
    subst hname
    exact trivial

variable {names : List String} {before t after text : List Char}

/-- The JSON of an array denotes the set of its items. -/
theorem denotes_array (hb : AllBlank before) (ha : AllBlank after)
    (ht : (Json.arr (names.map .str)).SpelledAs t) :
    Denotes (before ++ t ++ after) (.ofList (names.map loosen)) := by
  have hread : Inline.read t = .ok (.arr ((names.map loosen).map .str)) := by
    rw [Inline.read_eq_readWithin,
      Inline.readWithin_of_isText (amid_self ht)
        ((within_strings names).mono (by decide)),
      Loose.ofJson, ofItems_strings]
  obtain ⟨u, -, hu⟩ := ht
  -- brackets at both ends keep the blanks apart from the array
  have hstripped : IsStripped t := by
    subst hu
    constructor
    · intro c hc
      cases hc
      decide
    · intro c hc
      rw [List.getLast?_append] at hc
      cases hc
      decide
  apply denotes_of_value
  unfold namesValue
  rw [String.toList_ofList, trim_padded hstripped hb ha]
  rw [hu] at hread ⊢
  dsimp only [List.cons_append] at hread ⊢
  rw [hread]
  rfl

/-- What is no array denotes the set of the names that it lists. -/
theorem denotes_list (h : (trim text).head? ≠ some '[') :
    Denotes text (.ofList ((namesListed text).map loosen)) := by
  apply denotes_of_value
  unfold namesValue
  dsimp only
  rw [String.toList_ofList]
  split
  · next rest htrim =>
      rw [htrim] at h
      exact absurd rfl h
  · rw [namesListed_trim, List.map_map]

end ApiMount.Settings
