/-
Every text of the grammar is read where it stands in a setting
(`readWithin_of_isText`), if its value opens no more arrays and objects
inside each other than the reader does, and its numbers are not too long.

The argument goes along the reader: with room for one container more, a
value is read if its parts are (`reads_value`), and within a container
the parts are read one after the other (`items_reads`, `members_reads`).
Every part has at least one character, so the turns suffice.
-/
import ApiMount.Proofs.Json.Completeness
import ApiMount.Proofs.Json.Inline.Atoms

namespace ApiMount.Json

-- ============================================================== within

/-- No more arrays and objects than that lie inside each other, and no
number is too long. -/
structure Within (n : Nat) (v : Json) : Prop where
  nesting : v.nesting ≤ n
  short : v.Throughout IsShort

/-- What stays within a limit stays within a wider one. -/
theorem Within.mono {v : Json} {n m : Nat} (h : v.Within n)
    (hle : n ≤ m) : v.Within m :=
  ⟨Nat.le_trans h.nesting hle, h.short⟩

theorem itemNesting_le_iff {n : Nat} {items : List Json} :
    itemNesting items ≤ n ↔ ∀ item ∈ items, item.nesting ≤ n := by
  induction items with
  | nil => simp [itemNesting]
  | cons item rest ih =>
      rw [itemNesting, Nat.max_le, ih, List.forall_mem_cons]

theorem memberNesting_le_iff {n : Nat} {members : List (String × Json)} :
    memberNesting members ≤ n
      ↔ ∀ member ∈ members, member.2.nesting ≤ n := by
  induction members with
  | nil => simp [memberNesting]
  | cons member rest ih =>
      obtain ⟨key, value⟩ := member
      rw [memberNesting, Nat.max_le, ih, List.forall_mem_cons]

/-- The items of an array stay within one level less. -/
theorem Within.items {n : Nat} {vs : List Json}
    (h : (Json.arr vs).Within (n + 1)) : ∀ v ∈ vs, v.Within n := by
  have hnesting := h.nesting
  rw [Json.nesting] at hnesting
  intro v hv
  exact ⟨itemNesting_le_iff.1 (by omega) v hv,
    (throughout_arr_iff.1 h.short).2 v hv⟩

/-- The values of an object's members stay within one level less. -/
theorem Within.members {n : Nat} {ms : List (String × Json)}
    (h : (Json.obj ms).Within (n + 1)) : ∀ m ∈ ms, m.2.Within n := by
  have hnesting := h.nesting
  rw [Json.nesting] at hnesting
  intro m hm
  exact ⟨memberNesting_le_iff.1 (by omega) m hm,
    (throughout_obj_iff.1 h.short).2 m hm⟩

namespace Inline

open Text

-- ===================================================== what comes after

/-- A character that stands behind a part of an array or an object. -/
def IsSeparator (c : Char) : Prop := c = ',' ∨ c = ']' ∨ c = '\x7d'

/-- A separator is not skipped. -/
theorem IsSeparator.not_gap {c : Char} (hc : IsSeparator c) :
    isGap c = false := by
  rcases hc with h | h | h <;> subst h <;> decide

/-- A number ends at blanks, or where the text does. -/
theorem endsNumber_of_isBlank {t : List Char} (ht : IsBlank t) :
    EndsNumber t := by
  intro d hd
  rcases ht d (List.mem_of_head? hd) with h | h | h | h <;>
    subst h <;> decide

/-- A number ends at a separator, blanks before it or not. -/
theorem endsNumber_separator {t : List Char} (ht : IsBlank t) {c : Char}
    (hc : IsSeparator c) (s : List Char) : EndsNumber (t ++ c :: s) := by
  cases t with
  | nil =>
      intro d hd
      cases hd
      rcases hc with h | h | h <;> subst h <;> decide
  | cons b t => exact fun d hd => endsNumber_of_isBlank ht d hd

-- =============================================== what announces a value

/-- The first character of a spelling: it is no gap, and ends no
array. -/
def Starts (c : Char) : Prop := isGap c = false ∧ c ≠ ']'

theorem starts_of_isDigit {c : Char} (hc : c.isDigit = true) :
    Starts c := by
  have ne (d : Char) (hd : d.isDigit = false) : c ≠ d := by
    intro e
    subst e
    rw [hc] at hd
    cases hd
  refine ⟨?_, ne ']' (by decide)⟩
  simp [isGap, ne ' ' (by decide), ne '\t' (by decide),
    ne '\n' (by decide), ne '\r' (by decide)]

/-- A whole number starts with a digit or a sign: not with a quote, and not
with a bracket. -/
theorem starts_integer (n : Int) :
    ∃ c cs, integer n = c :: cs ∧ Starts c ∧ c ≠ '"'
      ∧ ∀ s, opened? (c :: s) = none := by
  cases n with
  | negSucc n => exact ⟨'-', _, rfl, ⟨by decide, by decide⟩, by decide,
      fun _ => rfl⟩
  | ofNat n =>
      cases hd : digits n with
      | nil => exact absurd hd Nat.toDigits_ne_nil
      | cons c cs =>
          have hc : c.isDigit = true :=
            Reader.isDigit_of_mem_digits (hd ▸ List.mem_cons_self)
          refine ⟨c, cs, hd, starts_of_isDigit hc, ?_, ?_⟩
          · intro e
            subst e
            exact absurd hc (by decide)
          · intro s
            unfold opened?
            split
            · next left h =>
                injection h with h _
                subst h
                exact absurd hc (by decide)
            · next left h =>
                injection h with h _
                subst h
                exact absurd hc (by decide)
            · rfl

/-- Every spelling of a value has a first character. -/
theorem starts_spelled : {v : Json} → {t : List Char} →
    v.SpelledAs t → ∃ c cs, t = c :: cs ∧ Starts c
  | .null, _, h => ⟨_, _, h, by decide, by decide⟩
  | .bool true, _, h => ⟨_, _, h, by decide, by decide⟩
  | .bool false, _, h => ⟨_, _, h, by decide, by decide⟩
  | .int n, _, .inl h => by
    obtain ⟨c, cs, hc, hs, -⟩ := starts_integer n
    exact ⟨c, cs, h.trans hc, hs⟩
  | .int _, _, .inr ⟨_, h⟩ => ⟨_, _, h, by decide, by decide⟩
  | .float _, _, h => h.elim
  | .str _, _, ⟨_, _, h⟩ => ⟨_, _, h, by decide, by decide⟩
  | .arr _, _, ⟨_, _, h⟩ => ⟨_, _, h, by decide, by decide⟩
  | .obj _, _, ⟨_, _, h⟩ => ⟨_, _, h, by decide, by decide⟩

/-- Gaps in front of a spelling are left out, and no more. -/
theorem skipGap_spelled {v : Json} {before t : List Char}
    (hb : IsBlank before) (ht : v.SpelledAs t) (s : List Char) :
    skipGap (before ++ t ++ s) = t ++ s := by
  obtain ⟨c, cs, hc, hs⟩ := starts_spelled ht
  rw [List.append_assoc, skipGap_append hb, hc]
  exact skipGap_cons hs.1 (cs ++ s)

/-- Behind the blanks before a value comes its first character. -/
theorem starts_amid {v : Json} {t : List Char}
    (h : Amid v.SpelledAs t) (s : List Char) :
    ∃ c cs, skipGap (t ++ s) = c :: cs ∧ Starts c := by
  obtain ⟨before, u, after, hbefore, hu, -, rfl⟩ := h
  obtain ⟨c, cs, hc, hs⟩ := starts_spelled hu
  refine ⟨c, cs ++ (after ++ s), ?_, hs⟩
  rw [List.append_assoc, skipGap_spelled hbefore hu, hc]
  rfl

-- =============================================================== reading

/-- A reader of single values. -/
abbrev PartReader := List Char → Outcome (Read Loose)

/-- The reader reads every spelling of the value that has no more
characters than there are turns. -/
def Reads (part : PartReader) (turns : Nat) (v : Json) : Prop :=
  ∀ t rest : List Char, v.SpelledAs t → t.length ≤ turns →
    EndsNumber rest → part (t ++ rest) = .ok (.ofJson v, rest)

section

variable {part : PartReader} {turns : Nat}

/-- A part is read with the gaps around it, up to the separator. -/
theorem Reads.amid {v : Json} (hv : Reads part turns v) {t : List Char}
    (ht : Amid v.SpelledAs t) (hl : t.length ≤ turns) {c : Char}
    (hc : IsSeparator c) (s : List Char) :
    ∃ left, part (skipGap (t ++ c :: s)) = .ok (.ofJson v, left)
      ∧ skipGap left = c :: s := by
  obtain ⟨before, u, after, hbefore, hu, hafter, rfl⟩ := ht
  rw [List.length_append, List.length_append] at hl
  refine ⟨after ++ c :: s, ?_, ?_⟩
  · rw [List.append_assoc, skipGap_spelled hbefore hu]
    exact hv u _ hu (by omega) (endsNumber_separator hafter hc s)
  · rw [skipGap_append hafter, skipGap_cons hc.not_gap]

/-- Items are read up to the bracket behind them; no bracket stands at
the first of them. -/
theorem items_reads (rest : List Char) :
    {vs : List Json} → {t : List Char} → {k : Nat} →
    vs ≠ [] → (∀ v ∈ vs, Reads part turns v) → ItemsSpelledAs vs t →
    t.length ≤ turns → vs.length ≤ k →
    ∃ c cs, skipGap (t ++ ']' :: rest) = c :: cs ∧ c ≠ ']'
      ∧ items part k (c :: cs) = .ok (Loose.ofItems vs, rest)
  -- the induction is on the items, as the spelling is, and each turn of
  -- the reader takes one of them
  | [], _, _, hne, _, _, _, _ => absurd rfl hne
  | [v], t, k + 1, _, hv, ht, hl, _ => by
    obtain ⟨c, cs, hc, hs⟩ := starts_amid ht (']' :: rest)
    obtain ⟨left, hread, hleft⟩ :=
      (hv v List.mem_cons_self).amid ht hl (.inr (.inl rfl)) rest
    refine ⟨c, cs, hc, hs.2, ?_⟩
    rw [← hc, items, hread]
    simp only [bind, Except.bind, hleft]
    rfl
  | v :: v' :: vs, _, k + 1, _, hv, ⟨u, w, hu, hw, ht⟩, hl, hk => by
    subst ht
    rw [List.length_append, List.length_cons] at hl
    obtain ⟨c, cs, hc, hs⟩ := starts_amid hu (',' :: (w ++ ']' :: rest))
    obtain ⟨left, hread, hleft⟩ :=
      (hv v List.mem_cons_self).amid hu (by omega) (.inl rfl)
        (w ++ ']' :: rest)
    obtain ⟨d, ds, hd, -, hitems⟩ :=
      items_reads rest (List.cons_ne_nil v' vs)
        (fun x hx => hv x (List.mem_cons_of_mem v hx)) hw (by omega)
        (Nat.le_of_succ_le_succ hk)
    -- w :: the text split at the comma, as the reader comes by it
    have hall : u ++ ',' :: w ++ ']' :: rest
        = u ++ ',' :: (w ++ ']' :: rest) := by
      rw [List.append_assoc, List.cons_append]
    refine ⟨c, cs, hall ▸ hc, hs.2, ?_⟩
    rw [← hc, items, hread]
    simp only [bind, Except.bind, hleft, hd, hitems]
    rfl

/-- A key is read up to the colon, and a value stands behind that. -/
theorem key_of_isMember {name : String} {v : Json} {t : List Char}
    (h : IsMember name v.SpelledAs t) (s : List Char) :
    ∃ u more left, Amid v.SpelledAs u ∧ u.length ≤ t.length
      ∧ skipGap (t ++ s) = '"' :: more
      ∧ string more = .ok (loosen name, left)
      ∧ skipGap left = ':' :: (u ++ s) := by
  obtain ⟨k, u, ⟨before, q, after, hbefore, ⟨w, hw, rfl⟩, hafter, rfl⟩,
    hu, rfl⟩ := h
  refine ⟨u, w ++ '"' :: (after ++ ':' :: (u ++ s)),
    after ++ ':' :: (u ++ s), hu, ?_, ?_, string_between hw _, ?_⟩
  · rw [List.length_append, List.length_cons]
    omega
  · have hall : before ++ ('"' :: w ++ ['"']) ++ after ++ ':' :: u ++ s
        = before ++ '"' :: (w ++ '"' :: (after ++ ':' :: (u ++ s))) := by
      simp only [List.append_assoc, List.cons_append, List.nil_append]
    rw [hall, skipGap_append hbefore, skipGap_cons (by decide)]
  · rw [skipGap_append hafter, skipGap_cons (by decide)]

/-- Members are read up to the brace behind them. -/
theorem members_reads (rest : List Char) :
    {ms : List (String × Json)} → {t : List Char} → {k : Nat} →
    ms ≠ [] → (∀ m ∈ ms, Reads part turns m.2) →
    MembersSpelledAs ms t → t.length ≤ turns → ms.length ≤ k →
    ∃ more, skipGap (t ++ '\x7d' :: rest) = '"' :: more
      ∧ members part k ('"' :: more) = .ok (Loose.ofMembers ms, rest)
  -- as for items, with a key in front of each value
  | [], _, _, hne, _, _, _, _ => absurd rfl hne
  | [(name, v)], t, k + 1, _, hv, ht, hl, _ => by
    obtain ⟨u, more, colon, hu, hul, hmore, hkey, hcolon⟩ :=
      key_of_isMember ht ('\x7d' :: rest)
    obtain ⟨left, hread, hleft⟩ :=
      (hv (name, v) List.mem_cons_self).amid hu (by omega)
        (.inr (.inr rfl)) rest
    refine ⟨more, hmore, ?_⟩
    rw [members]
    simp only [bind, Except.bind, hkey, hcolon, hread, hleft]
    rfl
  | (name, v) :: m :: ms, _, k + 1, _, hv, ⟨u, w, hu, hw, ht⟩, hl,
      hk => by
    subst ht
    rw [List.length_append, List.length_cons] at hl
    obtain ⟨q, more, colon, hq, hql, hmore, hkey, hcolon⟩ :=
      key_of_isMember hu (',' :: (w ++ '\x7d' :: rest))
    obtain ⟨left, hread, hleft⟩ :=
      (hv (name, v) List.mem_cons_self).amid hq (by omega) (.inl rfl)
        (w ++ '\x7d' :: rest)
    obtain ⟨next, hnext, hmembers⟩ :=
      members_reads rest (List.cons_ne_nil m ms)
        (fun x hx => hv x (List.mem_cons_of_mem (name, v) hx)) hw
        (by omega) (Nat.le_of_succ_le_succ hk)
    -- w :: the text split at the comma, as the reader comes by it
    have hall : u ++ ',' :: w ++ '\x7d' :: rest
        = u ++ ',' :: (w ++ '\x7d' :: rest) := by
      rw [List.append_assoc, List.cons_append]
    refine ⟨more, hall ▸ hmore, ?_⟩
    rw [members]
    simp only [bind, Except.bind, hkey, hcolon, hread, hleft, hnext,
      hmembers]
    rfl

-- ============================================================== values

/-- What opens nothing is read as a value without parts. -/
theorem value_atom {s : List Char} (hs : opened? s = none)
    (levels : Nat) : value turns levels s = atom s := by
  cases levels with
  | zero =>
      unfold value
      rw [hs]
  | succ levels =>
      unfold value
      rw [hs]

/-- A whole number is read where a value is expected. -/
theorem value_integer {rest : List Char} (hr : EndsNumber rest)
    {n : Int} (hn : (digits n.natAbs).length ≤ digitLimit)
    (levels : Nat) :
    value turns levels (integer n ++ rest) = .ok (.int n, rest) := by
  have hread := scalar_integer hr hn
  obtain ⟨c, cs, hc, -, hquote, hopened⟩ := starts_integer n
  rw [hc, List.cons_append] at hread ⊢
  rw [value_atom (hopened _)]
  unfold atom
  split
  · next rest' h =>
      injection h with h _
      exact absurd h hquote
  · exact hread

/-- A text is read where a value is expected, however it is spelled. -/
theorem value_string {u rest : List Char} {s : String}
    (hu : Between u s.toList) (levels : Nat) :
    value turns levels ('"' :: u ++ ['"'] ++ rest)
      = .ok (.str (loosen s), rest) := by
  have hall : '"' :: u ++ ['"'] ++ rest = '"' :: (u ++ '"' :: rest) := by
    rw [List.cons_append, List.cons_append, List.append_assoc]
    rfl
  rw [hall, value_atom rfl]
  unfold atom
  simp only [bind, Except.bind, string_between hu]
  rfl

/-- The items of an array are read up to its bracket, when a reader of its
items is given. -/
theorem contents_array {vs : List Json} {u rest : List Char}
    (hv : ∀ v ∈ vs, Reads part turns v) (hu : ItemsSpelledAs vs u)
    (hl : u.length ≤ turns) :
    contents part turns (.array, u ++ ']' :: rest)
      = .ok (.arr (Loose.ofItems vs), rest) := by
  unfold contents
  dsimp only
  cases vs with
  | nil =>
      rw [skipGap_append hu, skipGap_cons (by decide)]
      rfl
  | cons v vs =>
      have hlen := Reader.length_le_of_items hu
      obtain ⟨c, cs, hc, hne, hitems⟩ :=
        items_reads rest (List.cons_ne_nil v vs) hv hu hl
          (Nat.le_trans hlen hl)
      rw [hc]
      split
      · next after h =>
          injection h with h _
          exact absurd h hne
      · rw [hitems]
        rfl

/-- The members of an object are read up to its bracket, when a reader of
their values is given. -/
theorem contents_object {ms : List (String × Json)} {u rest : List Char}
    (hm : ∀ m ∈ ms, Reads part turns m.2) (hu : MembersSpelledAs ms u)
    (hl : u.length ≤ turns) :
    contents part turns (.object, u ++ '\x7d' :: rest)
      = .ok (.obj (Loose.ofMembers ms), rest) := by
  unfold contents
  dsimp only
  cases ms with
  | nil =>
      rw [skipGap_append hu, skipGap_cons (by decide)]
      rfl
  | cons m ms =>
      have hlen := Reader.length_le_of_members hu
      obtain ⟨more, hmore, hmembers⟩ :=
        members_reads rest (List.cons_ne_nil m ms) hm hu hl
          (Nat.le_trans hlen hl)
      rw [hmore]
      split
      · next after h =>
          injection h with h _
          exact absurd h (by decide)
      · rw [hmembers]
        rfl

end

/-- What is within the levels is read, from a reader with the levels
that are left for the parts. -/
theorem reads_value (turns : Nat) : (levels : Nat) → (v : Json) →
    v.Within levels → Reads (value turns levels) turns v
  | levels, .null, _ => by
    intro t rest ht _ _
    subst ht
    exact (value_atom rfl levels).trans scalar_null
  | levels, .bool true, _ => by
    intro t rest ht _ _
    subst ht
    exact (value_atom rfl levels).trans (scalar_bool true compactForm)
  | levels, .bool false, _ => by
    intro t rest ht _ _
    subst ht
    exact (value_atom rfl levels).trans (scalar_bool false compactForm)
  | levels, .int n, h => by
    intro t rest ht _ hr
    cases ht with
    | inl ht =>
        subst ht
        exact value_integer hr h.short levels
    | inr ht =>
        obtain ⟨hn, ht⟩ := ht
        subst hn ht
        exact (value_atom rfl levels).trans (scalar_minusZero hr)
  | levels, .float _, _ => fun _ _ ht _ _ => ht.elim
  | levels, .str s, _ => by
    intro t rest ht _ _
    obtain ⟨u, hu, ht⟩ := ht
    subst ht
    exact value_string hu levels
  -- without a level left there is no array and no object to be read
  | 0, .arr vs, h => by
    have hnesting := h.nesting
    rw [nesting] at hnesting
    omega
  | 0, .obj ms, h => by
    have hnesting := h.nesting
    rw [nesting] at hnesting
    omega
  | levels + 1, .arr vs, h => by
    intro t rest ht hl _
    obtain ⟨u, hu, ht⟩ := ht
    subst ht
    rw [List.length_append, List.length_cons] at hl
    -- the parts have one level less, and all the turns: these count
    -- characters
    have hparts : ∀ v ∈ vs, Reads (value turns levels) turns v := by
      intro v hv
      exact reads_value turns levels v (h.items v hv)
    rw [List.cons_append, List.cons_append, List.append_assoc]
    exact contents_array hparts hu (by omega)
  | levels + 1, .obj ms, h => by
    intro t rest ht hl _
    obtain ⟨u, hu, ht⟩ := ht
    subst ht
    rw [List.length_append, List.length_cons] at hl
    have hparts : ∀ m ∈ ms, Reads (value turns levels) turns m.2 := by
      intro m hm
      exact reads_value turns levels m.2 (h.members m hm)
    rw [List.cons_append, List.cons_append, List.append_assoc]
    exact contents_object hparts hu (by omega)

-- =============================================================== texts

/-- Reads a whole setting that may open so many arrays and objects
inside each other. -/
def readWithin (levels : Nat) (text : List Char) : Outcome Loose := do
  let (v, left) ← value (text.length + 1) levels (skipGap text)
  match skipGap left with
  | [] => return v
  | other => faultAt .textAfterEnd other

theorem read_eq_readWithin (text : List Char) :
    read text = readWithin nestingLimit text :=
  rfl

/-- A text of a value within the levels is read as that value. -/
theorem readWithin_of_isText {v : Json} {t : List Char} (ht : v.IsText t)
    {levels : Nat} (hv : v.Within levels) :
    readWithin levels t = .ok (.ofJson v) := by
  obtain ⟨before, u, after, hbefore, hu, hafter, rfl⟩ := ht
  have hturns : u.length ≤ (before ++ u ++ after).length + 1 := by
    rw [List.length_append, List.length_append]
    omega
  have hread := reads_value _ levels v hv u after hu hturns
    (endsNumber_of_isBlank hafter)
  unfold readWithin
  rw [skipGap_spelled hbefore hu, hread]
  simp only [bind, Except.bind, skipGap_of_isBlank hafter]
  rfl

end Inline

end ApiMount.Json
