/-
The grammar of JSON texts, over characters and apart from any reader.
`v.SpelledAs t` says that the characters `t` spell the value `v`, and
`v.IsText t` allows blanks around them. Strings may be written with any
of their escapes, the halves of a surrogate pair one after the other;
half of a pair on its own stands for no character, and what holds one is
no text. Blanks may stand around every token. Numbers are whole: a number
with a fraction or an exponent has no place here, and so no value with a
double in it is spelled by any text.

The printer writes texts of this grammar, whatever blanks its form puts
after a comma or a colon (`spelledAs_write`).
-/
import ApiMount.Proofs.Json.Inside

namespace ApiMount.Json

open Text

-- ============================================================= strings

/-- Characters that may stand between tokens. -/
def IsBlank (t : List Char) : Prop :=
  ∀ c ∈ t, c = ' ' ∨ c = '\t' ∨ c = '\n' ∨ c = '\r'

/-- The letters that may follow a backslash, with what they stand
for. -/
def letterEscapes : List (Char × Char) :=
  [('"', '"'), ('\\', '\\'), ('/', '/'), ('b', Char.ofNat 0x08),
    ('f', Char.ofNat 0x0C), ('n', '\n'), ('r', '\r'), ('t', '\t')]

/-- The number that four hexadecimal digits spell. -/
def IsQuad (a b c d : Char) (n : Nat) : Prop :=
  ∃ x y z w, hexValue? a = some x ∧ hexValue? b = some y
    ∧ hexValue? c = some z ∧ hexValue? d = some w
    ∧ n = ((x * 16 + y) * 16 + z) * 16 + w

/-- What may stand between the quotes of a string, and the characters
that it stands for. -/
inductive Between : List Char → List Char → Prop where
  | nil : Between [] []
  | plain {c : Char} {t cs : List Char} (quote : c ≠ '"')
      (backslash : c ≠ '\\') (control : 0x20 ≤ c.toNat)
      (rest : Between t cs) : Between (c :: t) (c :: cs)
  | letter {e c : Char} {t cs : List Char}
      (escape : (e, c) ∈ letterEscapes) (rest : Between t cs) :
      Between ('\\' :: e :: t) (c :: cs)
  | numbered {a b c d : Char} {n : Nat} {t cs : List Char}
      (quad : IsQuad a b c d n) (scalar : n < 0xD800 ∨ 0xDFFF < n)
      (rest : Between t cs) :
      Between ('\\' :: 'u' :: a :: b :: c :: d :: t) (Char.ofNat n :: cs)
  | pair {a b c d e f g h : Char} {n m : Nat} {t cs : List Char}
      (high : IsQuad a b c d n) (isHigh : 0xD800 ≤ n ∧ n ≤ 0xDBFF)
      (low : IsQuad e f g h m) (isLow : 0xDC00 ≤ m ∧ m ≤ 0xDFFF)
      (rest : Between t cs) :
      Between
        ('\\' :: 'u' :: a :: b :: c :: d
          :: '\\' :: 'u' :: e :: f :: g :: h :: t)
        (Char.ofNat ((n - 0xD800) * 0x400 + (m - 0xDC00) + 0x10000)
          :: cs)

/-- A text in quotes, in one of its spellings. -/
def IsQuoted (s : String) (t : List Char) : Prop :=
  ∃ u, Between u s.toList ∧ t = '"' :: u ++ ['"']

-- ============================================================== values

/-- Characters of one kind with blanks around them. -/
def Amid (spelled : List Char → Prop) (t : List Char) : Prop :=
  ∃ before u after, IsBlank before ∧ spelled u ∧ IsBlank after
    ∧ t = before ++ u ++ after

/-- A key and what is spelled under it. -/
def IsMember (key : String) (spelled : List Char → Prop)
    (t : List Char) : Prop :=
  ∃ k u, Amid (IsQuoted key) k ∧ Amid spelled u ∧ t = k ++ ':' :: u

mutual

/-- The characters spell the value. -/
def SpelledAs : Json → List Char → Prop
  | .null, t => t = "null".toList
  | .bool true, t => t = "true".toList
  | .bool false, t => t = "false".toList
  | .int n, t => t = integer n ∨ n = 0 ∧ t = ['-', '0']
  | .float _, _ => False
  | .str s, t => IsQuoted s t
  | .arr items, t => ∃ u, ItemsSpelledAs items u ∧ t = '[' :: u ++ [']']
  | .obj members, t =>
    ∃ u, MembersSpelledAs members u ∧ t = '\x7b' :: u ++ ['\x7d']

/-- The characters spell the items, with commas between them. -/
def ItemsSpelledAs : List Json → List Char → Prop
  | [], t => IsBlank t
  | [item], t => Amid item.SpelledAs t
  | item :: rest, t =>
    ∃ u w, Amid item.SpelledAs u ∧ ItemsSpelledAs rest w
      ∧ t = u ++ ',' :: w

/-- The characters spell the members, with commas between them. -/
def MembersSpelledAs : List (String × Json) → List Char → Prop
  | [], t => IsBlank t
  | [(key, value)], t => IsMember key value.SpelledAs t
  | (key, value) :: rest, t =>
    ∃ u w, IsMember key value.SpelledAs u ∧ MembersSpelledAs rest w
      ∧ t = u ++ ',' :: w

end

/-- The characters are a text of the value. -/
def IsText (v : Json) (t : List Char) : Prop := Amid v.SpelledAs t

-- ============================================================ printing

theorem isBlank_nil : IsBlank [] := by
  intro c h
  cases h

/-- What is spelled is also spelled without blanks around it. -/
theorem amid_self {spelled : List Char → Prop} {t : List Char}
    (h : spelled t) : Amid spelled t :=
  ⟨[], t, [], isBlank_nil, h, isBlank_nil, (List.append_nil t).symm⟩

/-- Four hexadecimal digits are written of any number below U+10000. -/
theorem isQuad_hex {n : Nat} (h : n < 0x10000) :
    ∃ a b c d, hex 4 n = [a, b, c, d] ∧ IsQuad a b c d n := by
  refine ⟨_, _, _, _, rfl, n / 16 / 16 / 16 % 16, n / 16 / 16 % 16,
    n / 16 % 16, n % 16, ?_, ?_, ?_, ?_, ?_⟩
  · exact hexValue?_hexDigit (by omega)
  · exact hexValue?_hexDigit (by omega)
  · exact hexValue?_hexDigit (by omega)
  · exact hexValue?_hexDigit (by omega)
  · omega

/-- A character stands for itself, behind one letter, or behind its
number. -/
theorem escaped_cases (c : Char) :
    (∃ e, (e, c) ∈ letterEscapes ∧ escaped c = ['\\', e])
      ∨ (c.toNat < 0x20 ∧ escaped c = '\\' :: 'u' :: hex 4 c.toNat)
      ∨ (c ≠ '"' ∧ c ≠ '\\' ∧ 0x20 ≤ c.toNat ∧ escaped c = [c]) := by
  have named (n : Nat) (h : c.toNat = n) : c = Char.ofNat n := by
    rw [← h, Char.ofNat_toNat]
  -- seven characters have a letter; of the others those below U+0020 are
  -- numbered, and the rest stand for themselves
  by_cases quote : c = '"'
  · subst quote
    exact .inl ⟨'"', by decide, rfl⟩
  by_cases backslash : c = '\\'
  · subst backslash
    exact .inl ⟨'\\', by decide, rfl⟩
  by_cases feed : c = '\n'
  · subst feed
    exact .inl ⟨'n', by decide, rfl⟩
  by_cases carriage : c = '\r'
  · subst carriage
    exact .inl ⟨'r', by decide, rfl⟩
  by_cases tab : c = '\t'
  · subst tab
    exact .inl ⟨'t', by decide, rfl⟩
  by_cases back : c.toNat = 0x08
  · rw [named _ back]
    exact .inl ⟨'b', by decide, by decide⟩
  by_cases page : c.toNat = 0x0C
  · rw [named _ page]
    exact .inl ⟨'f', by decide, by decide⟩
  unfold escaped
  rw [if_neg quote, if_neg backslash, if_neg feed, if_neg carriage,
    if_neg tab, if_neg back, if_neg page]
  by_cases control : c.toNat < 0x20
  · rw [if_pos control]
    exact .inr (.inl ⟨control, rfl⟩)
  · rw [if_neg control]
    exact .inr (.inr ⟨quote, backslash, by omega, rfl⟩)

/-- An escaped character stands for itself. -/
theorem between_escaped (c : Char) {t cs : List Char}
    (h : Between t cs) : Between (escaped c ++ t) (c :: cs) := by
  rcases escaped_cases c with
    ⟨e, he, heq⟩ | ⟨hc, heq⟩ | ⟨quote, backslash, control, heq⟩
  · rw [heq]
    exact .letter he h
  · obtain ⟨a, b, d, e, hhex, hquad⟩ :=
      isQuad_hex (n := c.toNat) (by omega)
    rw [heq, hhex]
    have hnum := Between.numbered hquad (by omega) h
    rwa [Char.ofNat_toNat] at hnum
  · rw [heq]
    exact .plain quote backslash control h

/-- A text is spelled by itself in quotes. -/
theorem isQuoted_quoted (s : String) : IsQuoted s (quoted s) := by
  refine ⟨s.toList.flatMap escaped, ?_, rfl⟩
  induction s.toList with
  | nil => exact .nil
  | cons c cs ih =>
      rw [List.flatMap_cons]
      exact between_escaped c ih

/-- Whether a form puts nothing but blanks after its separators. -/
structure Form.IsPlain (form : Form) : Prop where
  comma : ∃ b, IsBlank b ∧ form.comma = ',' :: b
  colon : ∃ b, IsBlank b ∧ form.colon = ':' :: b

/-- The compact form puts nothing around its separators. -/
theorem isPlain_compactForm : compactForm.IsPlain :=
  ⟨⟨[], isBlank_nil, rfl⟩, ⟨[], isBlank_nil, rfl⟩⟩

/-- Blanks in front of what has blanks around it are blanks around
it. -/
theorem amid_append {spelled : List Char → Prop} {b t : List Char}
    (hb : IsBlank b) (h : Amid spelled t) : Amid spelled (b ++ t) := by
  obtain ⟨before, u, after, hbefore, hu, hafter, rfl⟩ := h
  refine ⟨b ++ before, u, after, ?_, hu, hafter, ?_⟩
  · intro c hc
    rcases List.mem_append.1 hc with hc | hc
    · exact hb c hc
    · exact hbefore c hc
  · rw [List.append_assoc, List.append_assoc, List.append_assoc]

/-- Blanks may stand before the items. -/
theorem itemsSpelledAs_append {b t : List Char} (hb : IsBlank b) :
    {items : List Json} → ItemsSpelledAs items t →
      ItemsSpelledAs items (b ++ t)
  | [], h => fun c hc => (List.mem_append.1 hc).elim (hb c) (h c)
  | [_], h => amid_append hb h
  | _ :: _ :: _, ⟨u, w, hu, hw, ht⟩ =>
    ⟨b ++ u, w, amid_append hb hu, hw, by rw [ht, List.append_assoc]⟩

theorem isMember_append {key : String} {spelled : List Char → Prop}
    {b t : List Char} (hb : IsBlank b) (h : IsMember key spelled t) :
    IsMember key spelled (b ++ t) := by
  obtain ⟨k, u, hk, hu, rfl⟩ := h
  exact ⟨b ++ k, u, amid_append hb hk, hu, (List.append_assoc ..).symm⟩

theorem membersSpelledAs_append {b t : List Char} (hb : IsBlank b) :
    {members : List (String × Json)} → MembersSpelledAs members t →
      MembersSpelledAs members (b ++ t)
  | [], h => fun c hc => (List.mem_append.1 hc).elim (hb c) (h c)
  | [_], h => isMember_append hb h
  | _ :: _ :: _, ⟨u, w, hu, hw, ht⟩ =>
    ⟨b ++ u, w, isMember_append hb hu, hw,
      by rw [ht, List.append_assoc]⟩

section

variable {form : Form}

/-- A member is spelled as it is written. -/
theorem isMember_write (hf : form.IsPlain) (key : String) {value : Json}
    (h : value.SpelledAs (value.write form)) :
    IsMember key value.SpelledAs
      (quoted key ++ form.colon ++ value.write form) := by
  obtain ⟨b, hb, hcolon⟩ := hf.colon
  refine ⟨quoted key, b ++ value.write form,
    amid_self (isQuoted_quoted key), amid_append hb (amid_self h), ?_⟩
  rw [hcolon, List.append_assoc]
  rfl

mutual

/-- The printer writes a spelling of the value. -/
theorem spelledAs_write (hf : form.IsPlain) : (v : Json) →
    v.Throughout IsWhole → v.SpelledAs (v.write form)
  | .null, _ | .bool true, _ | .bool false, _ => rfl
  | .int _, _ => .inl rfl
  | .float _, h => h.elim
  | .str s, _ => isQuoted_quoted s
  | .arr items, h =>
    ⟨_, itemsSpelledAs_write hf items (throughout_arr_iff.1 h).2, rfl⟩
  | .obj members, h =>
    ⟨_, membersSpelledAs_write hf members (throughout_obj_iff.1 h).2,
      rfl⟩

theorem itemsSpelledAs_write (hf : form.IsPlain) :
    (items : List Json) → (∀ item ∈ items, item.Throughout IsWhole) →
      ItemsSpelledAs items (writeItems form items)
  | [], _ => isBlank_nil
  | [item], h =>
    amid_self (spelledAs_write hf item (h item List.mem_cons_self))
  | item :: next :: rest, h => by
    obtain ⟨hi, hr⟩ := List.forall_mem_cons.1 h
    obtain ⟨b, hb, hcomma⟩ := hf.comma
    refine ⟨item.write form, b ++ writeItems form (next :: rest),
      amid_self (spelledAs_write hf item hi),
      itemsSpelledAs_append hb (itemsSpelledAs_write hf _ hr), ?_⟩
    rw [writeItems, hcomma, List.append_assoc]
    · rfl
    · intro e
      cases e

theorem membersSpelledAs_write (hf : form.IsPlain) :
    (members : List (String × Json)) →
      (∀ member ∈ members, member.2.Throughout IsWhole) →
      MembersSpelledAs members (writeMembers form members)
  | [], _ => isBlank_nil
  | [(key, value)], h =>
    isMember_write hf key
      (spelledAs_write hf value (h (key, value) List.mem_cons_self))
  | (key, value) :: next :: rest, h => by
    obtain ⟨hv, hr⟩ := List.forall_mem_cons.1 h
    obtain ⟨b, hb, hcomma⟩ := hf.comma
    refine ⟨quoted key ++ form.colon ++ value.write form,
      b ++ writeMembers form (next :: rest),
      isMember_write hf key (spelledAs_write hf value hv),
      membersSpelledAs_append hb (membersSpelledAs_write hf _ hr), ?_⟩
    rw [writeMembers, hcomma, List.append_assoc _ (',' :: b)]
    · rfl
    · intro e
      cases e

end

end

/-- The compact text of a value is a text of it. -/
theorem isText_compact {v : Json} (h : v.Throughout IsWhole) :
    v.IsText v.compact.toList := by
  unfold compact
  rw [String.toList_ofList]
  exact amid_self (spelledAs_write isPlain_compactForm v h)

end ApiMount.Json
