/-
Every text of the grammar is read (`read_of_isText`): if the characters
are a text of a value that fits in the reader's levels, the reader gives
that value. With the printer's texts being of the grammar, what is
written compactly is read back (`read_compact`).

The reader takes a value from a reader of its parts. So the argument is
an induction on the levels that are left: if parts that fit in `n`
levels are read (`Reads`), a value that fits in one level more is read
(`reads_valueOf`). Within an array or an object the parts follow each
other, and the induction is on them (`items_reads`, `members_reads`);
each has at least one byte, so the turns suffice.
-/
import ApiMount.Proofs.Json.Numbers
import ApiMount.Proofs.Json.Strings

namespace ApiMount.Json.Reader

open Text Utf8

-- ============================================================== blanks

/-- A blank of the grammar is one blank byte. -/
theorem isBlankByte_of_isBlank {t : List Char} (ht : IsBlank t) :
    ∀ b ∈ encode t, isBlankByte b = true := by
  induction t with
  | nil =>
      intro b hb
      cases hb
  | cons c t ih =>
      obtain ⟨hc, hrest⟩ := List.forall_mem_cons.1 ht
      have hb : encode (c :: t) = octet c :: encode t
          ∧ isBlankByte (octet c) = true := by
        rcases hc with rfl | rfl | rfl | rfl <;>
          exact ⟨encode_cons_of_lt (by decide) _, by decide⟩
      rw [hb.1]
      exact List.forall_mem_cons.2 ⟨hb.2, ih hrest⟩

/-- Blanks before a value are skipped. -/
theorem skipBlanks_append {t : List Char} (ht : IsBlank t)
    (s : List UInt8) : skipBlanks (encode t ++ s) = skipBlanks s :=
  List.dropWhile_append_of_pos (isBlankByte_of_isBlank ht)

theorem skipBlanks_of_isBlank {t : List Char} (ht : IsBlank t) :
    skipBlanks (encode t) = [] := by
  have h := skipBlanks_append ht []
  rwa [List.append_nil] at h

/-- Skipping stops at the first byte that is no blank. -/
theorem skipBlanks_cons {b : UInt8} (hb : isBlankByte b = false)
    (s : List UInt8) : skipBlanks (b :: s) = b :: s :=
  List.dropWhile_cons_of_neg (by rw [hb]; exact Bool.false_ne_true)

-- ===================================================== what comes after

/-- A byte that stands behind a part of an array or an object. -/
def IsSeparator (b : UInt8) : Prop :=
  b = octet ',' ∨ b = octet ']' ∨ b = octet '\x7d'

/-- A separator is not skipped. -/
theorem IsSeparator.not_blank {b : UInt8} (hb : IsSeparator b) :
    isBlankByte b = false := by
  rcases hb with rfl | rfl | rfl <;> decide

/-- A number ends at blanks, or where the text does. -/
theorem endsNumber_of_isBlank {t : List Char} (ht : IsBlank t) :
    EndsNumber (encode t) := by
  cases t with
  | nil =>
      intro b hb
      cases hb
  | cons c t =>
      have hc := ht c List.mem_cons_self
      intro b hb
      have hfirst : encode (c :: t) = octet c :: encode t := by
        rcases hc with rfl | rfl | rfl | rfl <;>
          exact encode_cons_of_lt (by decide) _
      rw [hfirst, List.head?_cons, Option.mem_some_iff] at hb
      subst hb
      rcases hc with rfl | rfl | rfl | rfl <;> decide

/-- A number ends at a separator, blanks before it or not. -/
theorem endsNumber_separator {t : List Char} (ht : IsBlank t)
    {b : UInt8} (hb : IsSeparator b) (s : List UInt8) :
    EndsNumber (encode t ++ b :: s) := by
  intro c hc
  rw [List.head?_append] at hc
  cases hhead : (encode t).head? with
  | none =>
      rw [hhead, Option.none_or, List.head?_cons,
        Option.mem_some_iff] at hc
      subst hc
      rcases hb with rfl | rfl | rfl <;> decide
  | some d =>
      rw [hhead, Option.some_or] at hc
      exact endsNumber_of_isBlank ht c (hhead ▸ hc)

-- =============================================== what announces a value

/-- A digit differs from every byte that is none. -/
theorem ne_of_isDigit {b c : UInt8} (hb : isDigit b = true)
    (hc : isDigit c = false) : b ≠ c := by
  rintro rfl
  rw [hb] at hc
  cases hc

/-- A digit announces a number. -/
theorem lead_of_isDigit {b : UInt8} (hb : isDigit b = true) :
    lead b = .number := by
  have ne (c : Char) (hc : isDigit (octet c) = false) : b ≠ octet c :=
    ne_of_isDigit hb hc
  unfold lead
  rw [if_neg (ne '[' (by decide)), if_neg (ne '\x7b' (by decide)),
    if_neg (ne '"' (by decide)), if_neg (ne 't' (by decide)),
    if_neg (ne 'f' (by decide)), if_neg (ne 'n' (by decide)),
    if_neg (ne 'N' (by decide)), if_neg (ne 'I' (by decide)), hb,
    Bool.or_true, if_pos rfl]

/-- The first byte of a spelling: it is no blank, and ends no array. -/
def Starts (b : UInt8) : Prop := isBlankByte b = false ∧ b ≠ octet ']'

theorem starts_of_isDigit {b : UInt8} (hb : isDigit b = true) :
    Starts b := by
  refine ⟨?_, ne_of_isDigit hb (by decide)⟩
  unfold isBlankByte
  rw [beq_eq_false_iff_ne.2 (ne_of_isDigit hb (by decide)),
    beq_eq_false_iff_ne.2 (ne_of_isDigit hb (by decide)),
    beq_eq_false_iff_ne.2 (ne_of_isDigit hb (by decide)),
    beq_eq_false_iff_ne.2 (ne_of_isDigit hb (by decide))]
  rfl

/-- A whole number starts with a digit or a sign. -/
theorem starts_integer (n : Int) :
    ∃ b bs, encode (integer n) = b :: bs ∧ Starts b := by
  cases n with
  | ofNat n =>
      obtain ⟨b, bs, h, hb⟩ := encode_digits_cons n
      exact ⟨b, bs, h, starts_of_isDigit hb⟩
  | negSucc n =>
      exact ⟨octet '-', encode (digits (n + 1)),
        encode_cons_of_lt (by decide) _, by decide, by decide⟩

/-- Every spelling of a value has a first byte. -/
theorem starts_spelled {v : Json} {t : List Char}
    (h : v.SpelledAs t) : ∃ b bs, encode t = b :: bs ∧ Starts b := by
  -- all but the numbers start with one fixed character
  have first (c : Char) (u : List Char) (hc : c.toNat < 0x80)
      (hs : Starts (octet c)) :
      ∃ b bs, encode (c :: u) = b :: bs ∧ Starts b :=
    ⟨octet c, encode u, encode_cons_of_lt hc u, hs⟩
  match v, h with
  | .null, h =>
    subst h
    exact first 'n' _ (by decide) ⟨by decide, by decide⟩
  | .bool true, h =>
    subst h
    exact first 't' _ (by decide) ⟨by decide, by decide⟩
  | .bool false, h =>
    subst h
    exact first 'f' _ (by decide) ⟨by decide, by decide⟩
  | .int n, .inl h =>
    subst h
    exact starts_integer n
  | .int _, .inr ⟨_, h⟩ =>
    subst h
    exact first '-' _ (by decide) ⟨by decide, by decide⟩
  | .str _, ⟨u, _, h⟩ =>
    subst h
    exact first '"' _ (by decide) ⟨by decide, by decide⟩
  | .arr _, ⟨u, _, h⟩ =>
    subst h
    exact first '[' _ (by decide) ⟨by decide, by decide⟩
  | .obj _, ⟨u, _, h⟩ =>
    subst h
    exact first '\x7b' _ (by decide) ⟨by decide, by decide⟩

/-- With blanks around a spelling, its first byte is found behind
them. -/
theorem starts_amid {v : Json} {t : List Char}
    (h : Amid v.SpelledAs t) (s : List UInt8) :
    ∃ b bs, skipBlanks (encode t ++ s) = b :: bs ∧ Starts b := by
  obtain ⟨before, u, after, hbefore, hu, -, rfl⟩ := h
  obtain ⟨b, bs, hb, hs⟩ := starts_spelled hu
  refine ⟨b, bs ++ (encode after ++ s), ?_, hs⟩
  rw [encode_append, encode_append, List.append_assoc, List.append_assoc,
    skipBlanks_append hbefore, hb, List.cons_append,
    skipBlanks_cons hs.1]

-- =============================================================== lengths

/-- No value is spelled by nothing. -/
theorem length_pos_of_spelled {v : Json} {t : List Char}
    (h : v.SpelledAs t) : 0 < t.length := by
  obtain ⟨b, bs, hb, -⟩ := starts_spelled h
  cases t with
  | nil => cases hb
  | cons c t => exact Nat.succ_pos _

theorem length_pos_of_amid {v : Json} {t : List Char}
    (h : Amid v.SpelledAs t) : 0 < t.length := by
  obtain ⟨before, u, after, -, hu, -, rfl⟩ := h
  have := length_pos_of_spelled hu
  rw [List.length_append, List.length_append]
  omega

/-- There are no more items than characters. -/
theorem length_le_of_items : {vs : List Json} → {t : List Char} →
    ItemsSpelledAs vs t → vs.length ≤ t.length
  | [], _, _ => Nat.zero_le _
  | [_], _, h => length_pos_of_amid h
  | _ :: _ :: _, _, ⟨u, w, _, hw, ht⟩ => by
    have := length_le_of_items hw
    simp only [ht, List.length_append, List.length_cons] at *
    omega

/-- There are no more members than characters. -/
theorem length_le_of_members : {ms : List (String × Json)} →
    {t : List Char} → MembersSpelledAs ms t → ms.length ≤ t.length
  | [], _, _ => Nat.zero_le _
  | [(_, _)], _, ⟨k, u, _, _, ht⟩ => by
    rw [ht, List.length_append, List.length_cons]
    exact Nat.le_add_left_of_le (Nat.succ_le_succ (Nat.zero_le _))
  | (_, _) :: _ :: _, _, ⟨u, w, _, hw, ht⟩ => by
    have := length_le_of_members hw
    simp only [ht, List.length_append, List.length_cons] at *
    omega

-- =============================================================== reading

/-- A reader of single values. -/
abbrev PartReader := List UInt8 → Outcome (Read Json)

/-- The reader reads every spelling of the value that has no more
characters than there are turns. -/
def Reads (part : PartReader) (turns : Nat) (v : Json) : Prop :=
  ∀ (t : List Char) (rest : List UInt8), v.SpelledAs t →
    t.length ≤ turns → EndsNumber rest →
    part (encode t ++ rest) = .ok (v, rest)

variable {part : PartReader} {turns : Nat} {rest : List UInt8}

/-- A part is read with the blanks around it, up to the separator. -/
theorem Reads.amid {v : Json} (hv : Reads part turns v) {t : List Char}
    (ht : Amid v.SpelledAs t) (hl : t.length ≤ turns) {b : UInt8}
    (hb : IsSeparator b) (s : List UInt8) :
    ∃ left, part (skipBlanks (encode t ++ b :: s)) = .ok (v, left)
      ∧ skipBlanks left = b :: s := by
  obtain ⟨before, u, after, hbefore, hu, hafter, rfl⟩ := ht
  obtain ⟨c, cs, hc, hs⟩ := starts_spelled hu
  rw [List.length_append, List.length_append] at hl
  refine ⟨encode after ++ b :: s, ?_, ?_⟩
  · rw [encode_append, encode_append, List.append_assoc,
      List.append_assoc, skipBlanks_append hbefore, hc, List.cons_append,
      skipBlanks_cons hs.1, ← List.cons_append, ← hc]
    exact hv u _ hu (by omega) (endsNumber_separator hafter hb s)
  · rw [skipBlanks_append hafter, skipBlanks_cons hb.not_blank]

/-- Items are read up to the bracket behind them; no bracket stands at
the first of them. -/
theorem items_reads (rest : List UInt8) :
    {vs : List Json} → {t : List Char} → {k : Nat} →
    vs ≠ [] → (∀ v ∈ vs, Reads part turns v) → ItemsSpelledAs vs t →
    t.length ≤ turns → vs.length ≤ k →
    ∃ b bs, skipBlanks (encode t ++ octet ']' :: rest) = b :: bs
      ∧ b ≠ octet ']' ∧ items part k (b :: bs) = .ok (vs, rest)
  -- the induction is on the items, as the spelling is, and each turn of
  -- the reader takes one of them
  | [], _, _, hne, _, _, _, _ => absurd rfl hne
  | [v], t, k + 1, _, hv, ht, hl, _ => by
    obtain ⟨b, bs, hb, hs⟩ := starts_amid ht (octet ']' :: rest)
    obtain ⟨left, hread, hleft⟩ :=
      (hv v List.mem_cons_self).amid ht hl (.inr (.inl rfl)) rest
    refine ⟨b, bs, hb, hs.2, ?_⟩
    rw [← hb, items, hread]
    simp only [bind, Except.bind, hleft, if_true]
    rfl
  | v :: v' :: vs, _, k + 1, _, hv, ⟨u, w, hu, hw, ht⟩, hl, hk => by
    subst ht
    rw [List.length_append, List.length_cons] at hl
    obtain ⟨b, bs, hb, hs⟩ :=
      starts_amid hu (octet ',' :: (encode w ++ octet ']' :: rest))
    obtain ⟨left, hread, hleft⟩ :=
      (hv v List.mem_cons_self).amid hu (by omega) (.inl rfl)
        (encode w ++ octet ']' :: rest)
    obtain ⟨c, cs, hc, hne, hitems⟩ :=
      items_reads rest (List.cons_ne_nil v' vs)
        (fun x hx => hv x (List.mem_cons_of_mem v hx)) hw (by omega)
        (Nat.le_of_succ_le_succ hk)
    -- w) :: the text split at the comma, as the reader comes by it
    have hall : encode (u ++ ',' :: w) ++ octet ']' :: rest
        = encode u ++ octet ',' :: (encode w ++ octet ']' :: rest) := by
      rw [encode_append, encode_cons_of_lt (by decide),
        List.append_assoc, List.cons_append]
    refine ⟨b, bs, hall ▸ hb, hs.2, ?_⟩
    have hcomma : octet ',' ≠ octet ']' := by decide
    rw [← hb, items, hread]
    simp only [bind, Except.bind, hleft, hcomma, if_true, if_false, hc,
      hne, hitems]
    rfl

/-- A key is read up to the first byte of the value under it. -/
theorem key_of_isMember {name : String} {v : Json} {t : List Char}
    (h : IsMember name v.SpelledAs t) (s : List UInt8) :
    ∃ u more, Amid v.SpelledAs u ∧ u.length ≤ t.length
      ∧ skipBlanks (encode t ++ s) = octet '"' :: more
      ∧ key more = .ok (name, skipBlanks (encode u ++ s)) := by
  obtain ⟨k, u, ⟨before, q, after, hbefore, ⟨w, hw, rfl⟩, hafter, rfl⟩,
    hu, rfl⟩ := h
  obtain ⟨c, cs, hc, -⟩ := starts_amid hu s
  refine ⟨u, encode w ++ octet '"' :: (encode after
    ++ octet ':' :: (encode u ++ s)), hu, ?_, ?_, ?_⟩
  · rw [List.length_append, List.length_cons]
    omega
  · have hquote : ('"' : Char).toNat < 0x80 := by decide
    have hcolon : (':' : Char).toNat < 0x80 := by decide
    simp only [encode_append, encode_cons_of_lt hquote,
      encode_cons_of_lt hcolon, List.append_assoc, List.cons_append,
      List.nil_append]
    rw [skipBlanks_append hbefore, skipBlanks_cons (by decide)]
  -- the name is read up to its quote, and the colon behind the blanks
  · rw [key, string_between hw]
    simp only [bind, Except.bind]
    rw [skipBlanks_append hafter, skipBlanks_cons (by decide)]
    simp only [hc, if_true]
    rfl

/-- Members are read up to the brace behind them. -/
theorem members_reads (rest : List UInt8) :
    {ms : List (String × Json)} → {t : List Char} → {k : Nat} →
    ms ≠ [] → (∀ m ∈ ms, Reads part turns m.2) →
    MembersSpelledAs ms t → t.length ≤ turns → ms.length ≤ k →
    ∃ more, skipBlanks (encode t ++ octet '\x7d' :: rest)
        = octet '"' :: more
      ∧ members part k more = .ok (ms, rest)
  -- as for items, with a key in front of each value
  | [], _, _, hne, _, _, _, _ => absurd rfl hne
  | [(name, v)], t, k + 1, _, hv, ht, hl, _ => by
    obtain ⟨u, more, hu, hul, hmore, hkey⟩ :=
      key_of_isMember ht (octet '\x7d' :: rest)
    obtain ⟨left, hread, hleft⟩ :=
      (hv (name, v) List.mem_cons_self).amid hu (by omega)
        (.inr (.inr rfl)) rest
    refine ⟨more, hmore, ?_⟩
    rw [members, hkey]
    simp only [bind, Except.bind, hread, hleft, if_true]
    rfl
  | (name, v) :: m :: ms, _, k + 1, _, hv, ⟨u, w, hu, hw, ht⟩, hl,
      hk => by
    subst ht
    rw [List.length_append, List.length_cons] at hl
    obtain ⟨q, more, hq, hql, hmore, hkey⟩ := key_of_isMember hu
      (octet ',' :: (encode w ++ octet '\x7d' :: rest))
    obtain ⟨left, hread, hleft⟩ :=
      (hv (name, v) List.mem_cons_self).amid hq (by omega) (.inl rfl)
        (encode w ++ octet '\x7d' :: rest)
    obtain ⟨next, hnext, hmembers⟩ :=
      members_reads rest (List.cons_ne_nil m ms)
        (fun x hx => hv x (List.mem_cons_of_mem (name, v) hx)) hw
        (by omega) (Nat.le_of_succ_le_succ hk)
    -- w) :: the text split at the comma, as the reader comes by it
    have hall : encode (u ++ ',' :: w) ++ octet '\x7d' :: rest
        = encode u ++ octet ',' :: (encode w ++ octet '\x7d' :: rest) := by
      rw [encode_append, encode_cons_of_lt (by decide),
        List.append_assoc, List.cons_append]
    refine ⟨more, hall ▸ hmore, ?_⟩
    have hcomma : octet ',' ≠ octet '\x7d' := by decide
    rw [members, hkey]
    simp only [bind, Except.bind, hread, hleft, hcomma, if_true,
      if_false, hnext, hmembers]
    rfl

-- ============================================================== values

/-- A word is read as what it stands for. -/
theorem valueOf_word {b : UInt8} {letters : String} {v : Json}
    (hb : lead b = .word letters v) :
    valueOf part turns (b :: (bytes letters ++ rest))
      = .ok (v, rest) := by
  have hword (w s : List UInt8) : word w (w ++ s) = .ok s := by
    induction w with
    | nil => rfl
    | cons c w ih =>
        rw [List.cons_append, word, if_pos rfl]
        exact ih
  unfold valueOf
  simp only [hb, hword]
  rfl

/-- A number is read by the reader of numbers. -/
theorem valueOf_number {b : UInt8} (hb : lead b = .number)
    (s : List UInt8) : valueOf part turns (b :: s) = number (b :: s) := by
  unfold valueOf
  simp only [hb]

/-- Where every spelling begins as a number does, it is read as one. -/
theorem valueOf_integer (n : Int) (s : List UInt8) :
    valueOf part turns (encode (integer n) ++ s)
      = number (encode (integer n) ++ s) := by
  have hlead : ∃ b bs, encode (integer n) = b :: bs
      ∧ lead b = .number := by
    cases n with
    | ofNat n =>
        obtain ⟨b, bs, h, hb⟩ := encode_digits_cons n
        exact ⟨b, bs, h, lead_of_isDigit hb⟩
    | negSucc n =>
        exact ⟨octet '-', encode (digits (n + 1)),
          encode_cons_of_lt (by decide) _, rfl⟩
  obtain ⟨b, bs, h, hb⟩ := hlead
  rw [h]
  exact valueOf_number hb (bs ++ s)

/-- A text is read, however it is spelled. -/
theorem valueOf_string {u : List Char} {s : String}
    (hu : Between u s.toList) :
    valueOf part turns (encode ('"' :: u ++ ['"']) ++ rest)
      = .ok (.str s, rest) := by
  have hall : encode ('"' :: u ++ ['"']) ++ rest
      = octet '"' :: (encode u ++ octet '"' :: rest) := by
    rw [List.cons_append, encode_cons_of_lt (by decide), encode_append,
      List.cons_append, List.append_assoc]
    rfl
  have hlead : lead (octet '"') = .string := rfl
  rw [hall]
  unfold valueOf
  simp only [hlead, string_between hu]
  rfl

/-- An array is read when its items are. -/
theorem valueOf_array {vs : List Json} {u : List Char}
    (hv : ∀ v ∈ vs, Reads part turns v) (hu : ItemsSpelledAs vs u)
    (hl : u.length ≤ turns) :
    valueOf part turns (encode ('[' :: u ++ [']']) ++ rest)
      = .ok (.arr vs, rest) := by
  have hall : encode ('[' :: u ++ [']']) ++ rest
      = octet '[' :: (encode u ++ octet ']' :: rest) := by
    rw [List.cons_append, encode_cons_of_lt (by decide), encode_append,
      List.cons_append, List.append_assoc]
    rfl
  have hlead : lead (octet '[') = .array := rfl
  rw [hall]
  unfold valueOf
  -- an array without items is told by its closing bracket
  cases vs with
  | nil =>
      have hempty : skipBlanks (encode u ++ octet ']' :: rest)
          = octet ']' :: rest := by
        rw [skipBlanks_append hu, skipBlanks_cons (by decide)]
      simp only [hlead, hempty, if_true]
      rfl
  | cons v vs =>
      have hlen := length_le_of_items hu
      obtain ⟨b, bs, hb, hne, hitems⟩ :=
        items_reads rest (List.cons_ne_nil v vs) hv hu hl
          (Nat.le_trans hlen hl)
      simp only [hlead, hb, hne, if_false, hitems]
      rfl

/-- An object is read when the values of its members are. -/
theorem valueOf_object {ms : List (String × Json)} {u : List Char}
    (hm : ∀ m ∈ ms, Reads part turns m.2) (hu : MembersSpelledAs ms u)
    (hl : u.length ≤ turns) :
    valueOf part turns (encode ('\x7b' :: u ++ ['\x7d']) ++ rest)
      = .ok (.obj ms, rest) := by
  have hall : encode ('\x7b' :: u ++ ['\x7d']) ++ rest
      = octet '\x7b' :: (encode u ++ octet '\x7d' :: rest) := by
    rw [List.cons_append, encode_cons_of_lt (by decide), encode_append,
      List.cons_append, List.append_assoc]
    rfl
  have hlead : lead (octet '\x7b') = .object := rfl
  rw [hall]
  unfold valueOf
  -- an object without members is told by its closing brace
  cases ms with
  | nil =>
      have hempty : skipBlanks (encode u ++ octet '\x7d' :: rest)
          = octet '\x7d' :: rest := by
        rw [skipBlanks_append hu, skipBlanks_cons (by decide)]
      simp only [hlead, hempty, if_true]
      rfl
  | cons m ms =>
      have hlen := length_le_of_members hu
      obtain ⟨more, hmore, hmembers⟩ :=
        members_reads rest (List.cons_ne_nil m ms) hm hu hl
          (Nat.le_trans hlen hl)
      have hquote : octet '"' ≠ octet '\x7d' := by decide
      simp only [hlead, hmore, hquote, if_false, if_true, hmembers]
      rfl

/-- One level more is read where parts that fit in one level less
are. -/
theorem reads_valueOf {n : Nat}
    (hpart : ∀ w : Json, w.Fits n → Reads part turns w) :
    (v : Json) → v.Fits (n + 1) → Reads (valueOf part turns) turns v
  | .null, _ => by
    rintro t rest rfl - -
    exact valueOf_word (b := octet 'n') rfl
  | .bool true, _ => by
    rintro t rest rfl - -
    exact valueOf_word (b := octet 't') rfl
  | .bool false, _ => by
    rintro t rest rfl - -
    exact valueOf_word (b := octet 'f') rfl
  | .int n, h => by
    rintro t rest (rfl | ⟨rfl, rfl⟩) - hr
    · rw [valueOf_integer]
      exact number_integer hr h.short
    · exact (valueOf_number (b := octet '-') rfl _).trans
        (number_minusZero hr)
  | .float _, h => h.whole.elim
  | .str s, _ => by
    rintro t rest ⟨u, hu, rfl⟩ - -
    exact valueOf_string hu
  | .arr vs, h => by
    rintro t rest ⟨u, hu, rfl⟩ hl -
    -- the brackets leave fewer characters than turns for what is in them
    refine valueOf_array (fun v hv => hpart v (fits_arr_iff.1 h v hv))
      hu ?_
    rw [List.length_append, List.length_cons] at hl
    omega
  | .obj ms, h => by
    rintro t rest ⟨u, hu, rfl⟩ hl -
    refine valueOf_object
      (fun m hm => hpart m.2 (fits_obj_iff.1 h m hm)) hu ?_
    rw [List.length_append, List.length_cons] at hl
    omega

/-- With room for `n` levels of parts, a value of one level more is
read. -/
theorem reads_value (turns n : Nat) :
    ∀ v : Json, v.Fits (n + 1) → Reads (value turns n) turns v := by
  induction n with
  | zero =>
      intro v hv
      exact reads_valueOf (fun w hw => absurd hw.pos (Nat.lt_irrefl 0))
        v hv
  | succ n ih =>
      intro v hv
      exact reads_valueOf ih v hv

end Reader

open Reader Utf8

-- =============================================================== texts

/-- A text of a value is read as that value. -/
theorem read_of_isText {v : Json} {t : List Char} (ht : v.IsText t)
    (hv : v.Fits (levelLimit + 1)) : read (encode t) = .ok v := by
  obtain ⟨before, u, after, hbefore, hu, hafter, rfl⟩ := ht
  obtain ⟨b, bs, hb, hs⟩ := starts_spelled hu
  -- there are as many turns as bytes, so enough for any part
  have hturns : u.length ≤ (encode (before ++ u ++ after)).length := by
    rw [encode_append, encode_append, List.length_append,
      List.length_append]
    have := length_le_encode u
    omega
  have hread := reads_value _ levelLimit v hv u (encode after) hu hturns
    (endsNumber_of_isBlank hafter)
  have hskip : skipBlanks (encode (before ++ u ++ after))
      = encode u ++ encode after := by
    rw [encode_append, encode_append, List.append_assoc,
      skipBlanks_append hbefore, hb, List.cons_append,
      skipBlanks_cons hs.1]
  unfold read
  rw [hskip, hread]
  simp only [bind, Except.bind, skipBlanks_of_isBlank hafter]
  rfl

/-- What is written compactly is read back. -/
theorem read_compact {v : Json} (hv : v.Fits (levelLimit + 1)) :
    read (bytes v.compact) = .ok v :=
  read_of_isText (isText_compact hv.whole) hv

end ApiMount.Json
