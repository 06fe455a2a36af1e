/-
What texts hold. No character below U+0020 stands in what the printer
writes, at whatever depth, as long as the numbers are whole
(`isClear_write`): within quotes such a character is escaped, and between
them there are brackets, separators, digits and words only. In any other
text of the grammar such characters are blanks (`mayStand_of_spelled`).

Half of a surrogate pair is written as it stands. So for any characters
that need no escape, a loose value is written alike with them in the
places of its halves, before the writing or after it (`map_write`). To
say this for all choices of characters is to say that every half of the
value stands in the text, and where.
-/
import ApiMount.Json.Loose
import ApiMount.Proofs.Json.Grammar
import ApiMount.Proofs.Json.Numbers

namespace ApiMount.Json

open Text

-- ================================================== control characters

/-- No character below U+0020 is among them. -/
def IsClear (t : List Char) : Prop := ∀ c ∈ t, 0x20 ≤ c.toNat

theorem isClear_nil : IsClear [] := by
  intro c hc
  cases hc

/-- Whether a text is clear can be computed. -/
theorem isClear_of_all {t : List Char}
    (h : t.all (0x20 ≤ ·.toNat) = true) : IsClear t := by
  intro c hc
  exact of_decide_eq_true (List.all_eq_true.1 h c hc)

theorem isClear_append {s t : List Char} (hs : IsClear s)
    (ht : IsClear t) : IsClear (s ++ t) :=
  List.forall_mem_append.2 ⟨hs, ht⟩

theorem isClear_cons {c : Char} {t : List Char} (hc : 0x20 ≤ c.toNat)
    (ht : IsClear t) : IsClear (c :: t) :=
  List.forall_mem_cons.2 ⟨hc, ht⟩

/-- What stands between two clear characters. -/
theorem isClear_surrounded {c d : Char} {t : List Char}
    (hc : 0x20 ≤ c.toNat) (ht : IsClear t) (hd : 0x20 ≤ d.toNat) :
    IsClear (c :: t ++ [d]) :=
  isClear_append (isClear_cons hc ht) (isClear_cons hd isClear_nil)

/-- Hexadecimal digits are clear, however many are asked for. -/
theorem isClear_hex (width n : Nat) : IsClear (hex width n) := by
  have digit : ∀ m : Fin 16, 0x20 ≤ (hexDigit m.val).toNat := by
    decide
  induction width generalizing n with
  | zero => exact isClear_nil
  | succ width ih =>
      have hn : n % 16 < 16 := Nat.mod_lt n (by decide)
      exact isClear_append (ih (n / 16))
        (isClear_cons (digit ⟨n % 16, hn⟩) isClear_nil)

/-- A character is clear once it is escaped: one below U+0020 has an
escape. -/
theorem isClear_escaped (c : Char) : IsClear (escaped c) := by
  have letters : ∀ pair ∈ letterEscapes, 0x20 ≤ pair.1.toNat := by
    decide
  rcases escaped_cases c with
    ⟨e, he, heq⟩ | ⟨-, heq⟩ | ⟨-, -, hc, heq⟩
  · rw [heq]
    exact isClear_cons (by decide)
      (isClear_cons (letters (e, c) he) isClear_nil)
  · rw [heq]
    exact isClear_cons (by decide)
      (isClear_cons (by decide) (isClear_hex 4 c.toNat))
  · rw [heq]
    exact isClear_cons hc isClear_nil

/-- A text in quotes is clear, whatever its characters. -/
theorem isClear_quoted (s : String) : IsClear (quoted s) := by
  apply isClear_surrounded (by decide) _ (by decide)
  intro d hd
  obtain ⟨c, -, hc⟩ := List.mem_flatMap.1 hd
  exact isClear_escaped c d hc

theorem isClear_digits (n : Nat) : IsClear (digits n) := by
  intro c hc
  have hdigit : 0x30 ≤ c.toNat ∧ c.toNat ≤ 0x39 :=
    Char.isDigit_iff_toNat.1 (Reader.isDigit_of_mem_digits hc)
  omega

theorem isClear_integer (n : Int) : IsClear (integer n) := by
  cases n with
  | ofNat n => exact isClear_digits n
  | negSucc n => exact isClear_cons (by decide) (isClear_digits (n + 1))

/-- Whether a form's separators are clear. -/
structure Form.IsClear (form : Form) : Prop where
  comma : Json.IsClear form.comma
  colon : Json.IsClear form.colon

section

variable {form : Form}

/-- A member is clear when its value is written so. -/
theorem isClear_member (hf : form.IsClear) (key : String)
    {written : List Char} (h : IsClear written) :
    IsClear (quoted key ++ form.colon ++ written) :=
  isClear_append (isClear_append (isClear_quoted key) hf.colon) h

mutual

/-- No control character stands in what is written. -/
theorem isClear_write (hf : form.IsClear) : (v : Json) →
    v.Throughout IsWhole → IsClear (v.write form)
  | .null, _ | .bool true, _ | .bool false, _ => isClear_of_all rfl
  | .int n, _ => isClear_integer n
  | .float _, h => h.elim
  | .str s, _ => isClear_quoted s
  | .arr items, h =>
    isClear_surrounded (by decide)
      (isClear_writeItems hf items (throughout_arr_iff.1 h).2)
      (by decide)
  | .obj members, h =>
    isClear_surrounded (by decide)
      (isClear_writeMembers hf members (throughout_obj_iff.1 h).2)
      (by decide)

theorem isClear_writeItems (hf : form.IsClear) :
    (items : List Json) → (∀ item ∈ items, item.Throughout IsWhole) →
      IsClear (writeItems form items)
  | [], _ => isClear_nil
  | [item], h => isClear_write hf item (h item List.mem_cons_self)
  | item :: next :: rest, h => by
    obtain ⟨hitem, hrest⟩ := List.forall_mem_cons.1 h
    rw [writeItems]
    · exact isClear_append
        (isClear_append (isClear_write hf item hitem) hf.comma)
        (isClear_writeItems hf (next :: rest) hrest)
    · intro e
      cases e

theorem isClear_writeMembers (hf : form.IsClear) :
    (members : List (String × Json)) →
      (∀ member ∈ members, member.2.Throughout IsWhole) →
      IsClear (writeMembers form members)
  | [], _ => isClear_nil
  | [(key, value)], h =>
    isClear_member hf key
      (isClear_write hf value (h (key, value) List.mem_cons_self))
  | (key, value) :: next :: rest, h => by
    obtain ⟨hvalue, hrest⟩ := List.forall_mem_cons.1 h
    rw [writeMembers]
    · exact isClear_append
        (isClear_append
          (isClear_member hf key (isClear_write hf value hvalue))
          hf.comma)
        (isClear_writeMembers hf (next :: rest) hrest)
    · intro e
      cases e

end

end

theorem isPlain_spacedForm : spacedForm.IsPlain := by
  have blank : IsBlank [' '] := by
    intro c hc
    exact .inl (List.mem_singleton.1 hc)
  exact ⟨⟨[' '], blank, rfl⟩, ⟨[' '], blank, rfl⟩⟩

theorem isClear_spacedForm : spacedForm.IsClear :=
  ⟨isClear_of_all rfl, isClear_of_all rfl⟩

-- ======================================================= any spelling

/-- A character that has a value as a hexadecimal digit is clear. -/
theorem le_of_hexValue? {c : Char} {x : Nat} (h : hexValue? c = some x) :
    0x20 ≤ c.toNat := by
  have controls : ∀ n : Fin 0x20, hexValue? (Char.ofNat n) = none := by
    decide
  by_cases hc : c.toNat < 0x20
  · have hnone := controls ⟨c.toNat, hc⟩
    rw [Char.ofNat_toNat, h] at hnone
    cases hnone
  · omega

theorem isClear_quad {a b c d : Char} {n : Nat} (h : IsQuad a b c d n) :
    IsClear [a, b, c, d] := by
  obtain ⟨x, y, z, w, ha, hb, hc, hd, -⟩ := h
  exact isClear_cons (le_of_hexValue? ha)
    (isClear_cons (le_of_hexValue? hb)
      (isClear_cons (le_of_hexValue? hc)
        (isClear_cons (le_of_hexValue? hd) isClear_nil)))

/-- However a string is spelled, nothing within its quotes is a control
character. -/
theorem isClear_of_between {t cs : List Char} (h : Between t cs) :
    IsClear t := by
  have letters : ∀ pair ∈ letterEscapes, 0x20 ≤ pair.1.toNat := by
    decide
  have numbered {a b c d : Char} {n : Nat} {t : List Char}
      (quad : IsQuad a b c d n) (ht : IsClear t) :
      IsClear ('\\' :: 'u' :: a :: b :: c :: d :: t) :=
    isClear_cons (by decide)
      (isClear_cons (by decide) (isClear_append (isClear_quad quad) ht))
  -- by the way each character is spelled
  induction h with
  | nil => exact isClear_nil
  | plain quote backslash control _ ih => exact isClear_cons control ih
  | letter escape _ ih =>
      exact isClear_cons (by decide)
        (isClear_cons (letters _ escape) ih)
  | numbered quad scalar _ ih => exact numbered quad ih
  | pair high isHigh low isLow _ ih =>
      exact numbered high (numbered low ih)

/-- Every way to spell a text in quotes is clear. -/
theorem isClear_of_isQuoted {s : String} {t : List Char}
    (h : IsQuoted s t) : IsClear t := by
  obtain ⟨u, hu, ht⟩ := h
  subst ht
  exact isClear_surrounded (by decide) (isClear_of_between hu) (by decide)

/-- Characters of a text: a control character is one only as a blank. -/
def MayStand (t : List Char) : Prop :=
  ∀ c ∈ t, 0x20 ≤ c.toNat ∨ c = '\t' ∨ c = '\n' ∨ c = '\r'

/-- What is clear may stand in a text of the grammar. -/
theorem IsClear.mayStand {t : List Char} (h : IsClear t) : MayStand t :=
  fun c hc => .inl (h c hc)

theorem mayStand_append {s t : List Char} (hs : MayStand s)
    (ht : MayStand t) : MayStand (s ++ t) :=
  List.forall_mem_append.2 ⟨hs, ht⟩

theorem mayStand_cons {c : Char} {t : List Char} (hc : 0x20 ≤ c.toNat)
    (ht : MayStand t) : MayStand (c :: t) :=
  List.forall_mem_cons.2 ⟨.inl hc, ht⟩

/-- Blanks may stand, those below U+0020 included. -/
theorem mayStand_of_isBlank {t : List Char} (h : IsBlank t) :
    MayStand t := by
  intro c hc
  rcases h c hc with hc | hc
  · subst hc
    exact .inl (by decide)
  · exact .inr hc

/-- What may stand may stand amid blanks. -/
theorem mayStand_of_amid {spelled : List Char → Prop}
    (h : ∀ u, spelled u → MayStand u) {t : List Char}
    (ht : Amid spelled t) : MayStand t := by
  obtain ⟨before, u, after, hbefore, hu, hafter, ht⟩ := ht
  rw [ht]
  exact mayStand_append
    (mayStand_append (mayStand_of_isBlank hbefore) (h u hu))
    (mayStand_of_isBlank hafter)

/-- A member may stand when every way to spell its value may. -/
theorem mayStand_of_isMember {key : String} {spelled : List Char → Prop}
    (h : ∀ u, spelled u → MayStand u) {t : List Char}
    (ht : IsMember key spelled t) : MayStand t := by
  obtain ⟨k, u, hk, hu, ht⟩ := ht
  rw [ht]
  exact mayStand_append
    (mayStand_of_amid (fun u hu => (isClear_of_isQuoted hu).mayStand) hk)
    (mayStand_cons (by decide) (mayStand_of_amid h hu))

/-- What may stand may stand in brackets. -/
theorem mayStand_surrounded {c d : Char} {t : List Char}
    (hc : 0x20 ≤ c.toNat) (ht : MayStand t) (hd : 0x20 ≤ d.toNat) :
    MayStand (c :: t ++ [d]) :=
  mayStand_append (mayStand_cons hc ht)
    (isClear_cons hd isClear_nil).mayStand

mutual

/-- In whatever spells a value, only blanks are control characters. -/
theorem mayStand_of_spelled : (v : Json) → (t : List Char) →
    v.SpelledAs t → MayStand t
  | .null, _, h | .bool true, _, h | .bool false, _, h => by
    rw [h]
    exact (isClear_of_all rfl).mayStand
  | .int n, _, .inl h => h ▸ (isClear_integer n).mayStand
  | .int _, _, .inr ⟨_, h⟩ => by
    rw [h]
    exact (isClear_of_all rfl).mayStand
  | .float _, _, h => h.elim
  | .str _, _, h => (isClear_of_isQuoted h).mayStand
  | .arr items, _, ⟨u, hu, h⟩ => by
    rw [h]
    exact mayStand_surrounded (by decide) (mayStand_of_items items u hu)
      (by decide)
  | .obj members, _, ⟨u, hu, h⟩ => by
    rw [h]
    exact mayStand_surrounded (by decide)
      (mayStand_of_members members u hu) (by decide)

theorem mayStand_of_items : (items : List Json) → (t : List Char) →
    ItemsSpelledAs items t → MayStand t
  | [], _, h => mayStand_of_isBlank h
  | [item], _, h => mayStand_of_amid (mayStand_of_spelled item) h
  | item :: next :: rest, _, ⟨u, w, hu, hw, h⟩ => by
    rw [h]
    exact mayStand_append (mayStand_of_amid (mayStand_of_spelled item) hu)
      (mayStand_cons (by decide) (mayStand_of_items (next :: rest) w hw))

theorem mayStand_of_members : (members : List (String × Json)) →
    (t : List Char) → MembersSpelledAs members t → MayStand t
  | [], _, h => mayStand_of_isBlank h
  | [(_, value)], _, h =>
    mayStand_of_isMember (mayStand_of_spelled value) h
  | (_, value) :: next :: rest, _, ⟨u, w, hu, hw, h⟩ => by
    rw [h]
    exact mayStand_append
      (mayStand_of_isMember (mayStand_of_spelled value) hu)
      (mayStand_cons (by decide)
        (mayStand_of_members (next :: rest) w hw))

end

end ApiMount.Json

namespace ApiMount.Text

-- ================================================ in the halves' places

/-- The character for a piece of loose text, given one for every
half. -/
def LooseChar.filled (halves : Fin 0x800 → Char) : LooseChar → Char
  | .char c => c
  | .half i => halves i

/-- Loose text as text, with the given characters in the halves'
places. -/
def filled (halves : Fin 0x800 → Char) (t : LooseText) : String :=
  String.ofList (t.map (LooseChar.filled halves))

/-- Every half replaced by the character for what has none. -/
def LooseChar.replaced : Fin 0x800 → Char := fun _ => Char.ofNat 0xFFFD

/-- Characters without halves are left by any filling. -/
@[simp] theorem map_filled_loose (halves : Fin 0x800 → Char)
    (cs : List Char) : (loose cs).map (LooseChar.filled halves) = cs := by
  have : LooseChar.filled halves ∘ LooseChar.char = id := rfl
  simp [loose, this]

/-- A text without halves is left by any filling. -/
@[simp] theorem filled_loosen (halves : Fin 0x800 → Char) (s : String) :
    filled halves (loosen s) = s := by
  simp [filled, loosen]

end ApiMount.Text

namespace ApiMount.Json

open Text

/-- Whether every half has a character in its place that is written as
it stands. -/
def AreUnescaped (halves : Fin 0x800 → Char) : Prop :=
  ∀ i, halves i ≠ '"' ∧ halves i ≠ '\\' ∧ 0x20 ≤ (halves i).toNat

/-- The replacement character needs no escape. -/
theorem areUnescaped_replaced : AreUnescaped LooseChar.replaced := by
  intro i
  unfold LooseChar.replaced
  decide

/-- A character that is no quote, no backslash and not below U+0020 is its
own escape. -/
theorem escaped_eq_self {c : Char} (quote : c ≠ '"')
    (backslash : c ≠ '\\') (control : 0x20 ≤ c.toNat) :
    escaped c = [c] := by
  have ne (d : Char) (hd : d.toNat < 0x20) : c ≠ d := by
    intro e
    subst e
    omega
  unfold escaped
  rw [if_neg quote, if_neg backslash, if_neg (ne '\n' (by decide)),
    if_neg (ne '\r' (by decide)), if_neg (ne '\t' (by decide)),
    if_neg (by omega), if_neg (by omega), if_neg (by omega)]

namespace Loose

variable {halves : Fin 0x800 → Char}

mutual

/-- A loose value as a plain one, with the given characters in the
halves' places. -/
def filled (halves : Fin 0x800 → Char) : Loose → Json
  | .null => .null
  | .bool b => .bool b
  | .int n => .int n
  | .float x => .float x
  | .str t => .str (Text.filled halves t)
  | .arr items => .arr (filledItems halves items)
  | .obj members => .obj (filledMembers halves members)

/-- The items as plain ones. -/
def filledItems (halves : Fin 0x800 → Char) : List Loose → List Json
  | [] => []
  | item :: rest => item.filled halves :: filledItems halves rest

/-- The members as plain ones. -/
def filledMembers (halves : Fin 0x800 → Char) :
    List (LooseText × Loose) → List (String × Json)
  | [] => []
  | (key, value) :: rest =>
    (Text.filled halves key, value.filled halves)
      :: filledMembers halves rest

end

mutual

/-- A plain value has no halves to fill. -/
theorem filled_ofJson : (v : Json) → (ofJson v).filled halves = v
  | .null | .bool _ | .int _ | .float _ => rfl
  | .str s => congrArg Json.str (filled_loosen halves s)
  | .arr items => congrArg Json.arr (filledItems_ofItems items)
  | .obj members => congrArg Json.obj (filledMembers_ofMembers members)

theorem filledItems_ofItems : (items : List Json) →
    filledItems halves (ofItems items) = items
  | [] => rfl
  | item :: rest => by
    rw [ofItems, filledItems, filled_ofJson item,
      filledItems_ofItems rest]

/-- Members without halves are left by any filling, their keys included. -/
theorem filledMembers_ofMembers : (members : List (String × Json)) →
    filledMembers halves (ofMembers members) = members
  | [] => rfl
  | (key, value) :: rest => by
    rw [ofMembers, filledMembers, filled_loosen, filled_ofJson value,
      filledMembers_ofMembers rest]

end

-- ============================================================= writing

/-- One character is filled before it is escaped or after. -/
theorem map_escapedPiece (hh : AreUnescaped halves) (x : LooseChar) :
    (escapedPiece x).map (LooseChar.filled halves)
      = escaped (x.filled halves) := by
  cases x with
  | char c => exact map_filled_loose halves (escaped c)
  | half i =>
      obtain ⟨quote, backslash, control⟩ := hh i
      exact (escaped_eq_self quote backslash control).symm

/-- A text is filled before it is put in quotes or after. -/
theorem map_quotedLoose (hh : AreUnescaped halves) (t : LooseText) :
    (quotedLoose t).map (LooseChar.filled halves)
      = quoted (Text.filled halves t) := by
  have hpieces : (t.flatMap escapedPiece).map (LooseChar.filled halves)
      = (t.map (LooseChar.filled halves)).flatMap escaped := by
    induction t with
    | nil => rfl
    | cons x t ih =>
        rw [List.flatMap_cons, List.map_append, map_escapedPiece hh, ih]
        rfl
  unfold quotedLoose quoted Text.filled
  rw [String.toList_ofList, List.map_append, List.map_cons, hpieces]
  rfl

section

variable {form : Form}

/-- A member is written alike, when its value is. -/
theorem map_member (hh : AreUnescaped halves) (key : LooseText)
    {written : LooseText} {plain : List Char}
    (h : written.map (LooseChar.filled halves) = plain) :
    (quotedLoose key ++ loose form.colon ++ written).map
        (LooseChar.filled halves)
      = quoted (Text.filled halves key) ++ form.colon ++ plain := by
  rw [List.map_append, List.map_append, map_quotedLoose hh,
    map_filled_loose, h]

mutual

/-- A loose value is written alike with characters in the halves'
places. -/
theorem map_write (hh : AreUnescaped halves) : (v : Loose) →
    (v.write form).map (LooseChar.filled halves)
      = (v.filled halves).write form
  | .null => map_filled_loose halves _
  | .bool _ => map_filled_loose halves _
  | .int _ => map_filled_loose halves _
  | .float _ => map_filled_loose halves _
  | .str t => map_quotedLoose hh t
  | .arr items => by
    rw [write, filled, Json.write, List.map_append, List.map_cons,
      map_writeItems hh items]
    rfl
  | .obj members => by
    rw [write, filled, Json.write, List.map_append, List.map_cons,
      map_writeMembers hh members]
    rfl

theorem map_writeItems (hh : AreUnescaped halves) :
    (items : List Loose) →
      (writeItems form items).map (LooseChar.filled halves)
        = Json.writeItems form (filledItems halves items)
  | [] => rfl
  | [item] => map_write hh item
  | item :: next :: rest => by
    have hrest := map_writeItems hh (next :: rest)
    rw [filledItems] at hrest
    rw [writeItems, filledItems, filledItems, Json.writeItems,
      List.map_append, List.map_append, map_write hh item,
      map_filled_loose, hrest]
    · intro e
      cases e
    · intro e
      cases e

theorem map_writeMembers (hh : AreUnescaped halves) :
    (members : List (LooseText × Loose)) →
      (writeMembers form members).map (LooseChar.filled halves)
        = Json.writeMembers form (filledMembers halves members)
  | [] => rfl
  | [(key, value)] => map_member hh key (map_write hh value)
  | (key, value) :: (name, next) :: rest => by
    have hrest := map_writeMembers hh ((name, next) :: rest)
    rw [filledMembers] at hrest
    rw [writeMembers, filledMembers, filledMembers, Json.writeMembers,
      List.map_append, List.map_append,
      map_member hh key (map_write hh value), map_filled_loose, hrest]
    · intro e
      cases e
    · intro e
      cases e

end

/-- No control character stands in what is written of a loose value. -/
theorem code_of_mem_write (hf : form.IsClear) {v : Loose}
    (hv : (v.filled LooseChar.replaced).Throughout IsWhole) :
    ∀ x ∈ v.write form, 0x20 ≤ x.code := by
  intro x hx
  cases x with
  | half i =>
      show 0x20 ≤ firstHalf + i.val
      unfold firstHalf
      omega
  | char c =>
      have hc : c ∈ (v.write form).map
          (LooseChar.filled LooseChar.replaced) :=
        List.mem_map_of_mem hx
      rw [map_write areUnescaped_replaced] at hc
      exact isClear_write hf _ hv c hc

end

end Loose

end ApiMount.Json
