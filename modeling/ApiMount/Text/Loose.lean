/-
Loose text. An escape in a JSON string may name half of a surrogate pair
on its own. Such a half is no character, so a text that can hold one is
a list of characters and halves. Every text is loose text (`loosen`), and
loose text without halves is a text (`loosen_tighten`). Where a text
must be shown in any case, `tighten` puts the replacement character for
every half.

Pieces of loose text are ordered by code point, and loose texts like
words in a dictionary. The order is total (`lt_or_eq_or_gt`).
-/

namespace ApiMount.Text

/-- A character, or half of a surrogate pair that stands alone. Halves
are counted from the first of them. -/
inductive LooseChar where
  | char (c : Char)
  | half (i : Fin 0x800)
  deriving DecidableEq, Repr

/-- Text in which halves of surrogate pairs may stand alone. -/
abbrev LooseText := List LooseChar

/-- The code point of the first half. -/
def firstHalf : Nat := 0xD800

/-- The code point of a piece of loose text. -/
def LooseChar.code : LooseChar → Nat
  | .char c => c.toNat
  | .half i => firstHalf + i

/-- The piece of loose text with a code point; what exceeds the code
points counts as the first of them. -/
def LooseChar.ofCode (n : Nat) : LooseChar :=
  if h : firstHalf ≤ n ∧ n < firstHalf + 0x800 then
    .half ⟨n - firstHalf, by omega⟩
  else .char (Char.ofNat n)

/-- Whether a piece of loose text is a half. -/
def LooseChar.isHalf : LooseChar → Bool
  | .char _ => false
  | .half _ => true

-- ================================================================ texts

/-- Characters as loose text. -/
def loose (cs : List Char) : LooseText := cs.map .char

/-- A text as loose text. -/
def loosen (s : String) : LooseText := loose s.toList

/-- The character for a piece of loose text. -/
def LooseChar.tighten : LooseChar → Char
  | .char c => c
  | .half _ => Char.ofNat 0xFFFD

/-- Loose text as text. -/
def tighten (t : LooseText) : String :=
  String.ofList (t.map LooseChar.tighten)

/-- Characters without halves come back from their loose form. -/
@[simp] theorem map_tighten_loose (cs : List Char) :
    (loose cs).map LooseChar.tighten = cs := by
  have : LooseChar.tighten ∘ LooseChar.char = id := rfl
  simp [loose, this]

/-- A text without halves comes back from its loose form. -/
@[simp] theorem tighten_loosen (s : String) : tighten (loosen s) = s := by
  simp [tighten, loosen]

/-- Loose text without halves is a text made loose. -/
theorem loosen_tighten {t : LooseText}
    (h : t.any LooseChar.isHalf = false) : loosen (tighten t) = t := by
  have : ∀ x ∈ t, LooseChar.char x.tighten = x := by
    intro x hx
    have := List.any_eq_false.1 h x hx
    cases x with
    | char c => rfl
    | half i => simp [LooseChar.isHalf] at this
  simp only [loosen, loose, tighten, String.toList_ofList, List.map_map]
  exact (List.map_congr_left this).trans (List.map_id t)

-- ================================================================ order

/-- No two characters have one code. -/
theorem LooseChar.code_injective {x y : LooseChar}
    (h : x.code = y.code) : x = y := by
  have gap (c : Char) : c.toNat < 0xD800 ∨ 0xDFFF < c.toNat := by
    rcases c.valid with h | h
    · exact .inl h
    · exact .inr h.1
  cases x with
  | char c =>
    cases y with
    | char d => exact congrArg _ (Char.toNat_inj.1 h)
    | half j =>
      have := gap c
      simp only [code, firstHalf] at h
      omega
  | half i =>
    cases y with
    | char d =>
      have := gap d
      simp only [code, firstHalf] at h
      omega
    | half j =>
      simp only [code, firstHalf] at h
      exact congrArg _ (Fin.ext (by omega))

instance : LT LooseChar := ⟨fun x y => x.code < y.code⟩

instance (x y : LooseChar) : Decidable (x < y) :=
  inferInstanceAs (Decidable (x.code < y.code))

theorem LooseChar.lt_iff {x y : LooseChar} : x < y ↔ x.code < y.code :=
  .rfl

/-- No loose text comes before itself. -/
theorem not_lt_self (t : LooseText) : ¬ t < t := by
  induction t with
  | nil => exact List.not_lt_nil []
  | cons x t ih =>
    rw [List.cons_lt_cons_iff, LooseChar.lt_iff]
    rintro (h | h)
    · omega
    · exact ih h.2

/-- What comes before an earlier text comes before a later one. -/
theorem before_trans {s t u : LooseText} (h : s < t) (k : t < u) :
    s < u := by
  induction s generalizing t u with
  | nil =>
    cases u with
    | nil => exact absurd k (List.not_lt_nil t)
    | cons z u => exact List.nil_lt_cons z u
  | cons x s ih =>
    cases t with
    | nil => exact absurd h (List.not_lt_nil _)
    | cons y t =>
      cases u with
      | nil => exact absurd k (List.not_lt_nil _)
      | cons z u =>
        simp only [List.cons_lt_cons_iff, LooseChar.lt_iff] at h k ⊢
        rcases h with h | ⟨rfl, h⟩ <;> rcases k with k | ⟨rfl, k⟩
        · exact .inl (by omega)
        · exact .inl h
        · exact .inl k
        · exact .inr ⟨rfl, ih h k⟩

/-- Of two loose texts one comes before the other, or they are the
same. -/
theorem lt_or_eq_or_gt (s t : LooseText) : s < t ∨ s = t ∨ t < s := by
  induction s generalizing t with
  | nil =>
    cases t with
    | nil => exact .inr (.inl rfl)
    | cons y t => exact .inl (List.nil_lt_cons y t)
  | cons x s ih =>
    cases t with
    | nil => exact .inr (.inr (List.nil_lt_cons x s))
    | cons y t =>
      simp only [List.cons_lt_cons_iff, LooseChar.lt_iff, List.cons.injEq]
      rcases Nat.lt_trichotomy x.code y.code with h | h | h
      · exact .inl (.inl h)
      · have := LooseChar.code_injective h
        rcases ih t with h | h | h <;> simp_all
      · exact .inr (.inr (.inl h))

end ApiMount.Text
