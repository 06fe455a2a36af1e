/-
Reading the values without parts that stand in a setting: strings, whole
numbers and words. Whatever spells one of them in the grammar is read as
it (`string_between`, `scalar_integer`, `scalar_bool`). Escapes are
resolved to the characters that they stand for, and where an escape names
half of a surrogate pair, the grammar has the other half follow.

A numbered escape must not be the last of a text. It never is one here,
since the closing quote comes behind it.
-/
import ApiMount.Json.Inline
import ApiMount.Proofs.Json.Grammar
import ApiMount.Proofs.Json.Numbers

namespace ApiMount.Json.Inline

open Text

-- ================================================================ gaps

/-- Every blank of the grammar is one that the reader skips. -/
theorem isGap_of_isBlank {t : List Char} (ht : IsBlank t) :
    ∀ c ∈ t, isGap c = true := by
  intro c hc
  rcases ht c hc with h | h | h | h <;> simp [isGap, h]

/-- Blanks before a value are skipped. -/
theorem skipGap_append {t : List Char} (ht : IsBlank t)
    (s : List Char) : skipGap (t ++ s) = skipGap s :=
  List.dropWhile_append_of_pos (isGap_of_isBlank ht)

theorem skipGap_of_isBlank {t : List Char} (ht : IsBlank t) :
    skipGap t = [] := by
  have h := skipGap_append ht []
  rwa [List.append_nil] at h

/-- Skipping stops at the first character that is no blank. -/
theorem skipGap_cons {c : Char} (hc : isGap c = false)
    (s : List Char) : skipGap (c :: s) = c :: s :=
  List.dropWhile_cons_of_neg (by simp [hc])

-- ============================================================= strings

/-- The four digits of an escape are read as their number. -/
theorem quad?_of_isQuad {a b c d : Char} {n : Nat}
    (h : IsQuad a b c d n) : quad? a b c d = some n := by
  obtain ⟨x, y, z, w, ha, hb, hc, hd, rfl⟩ := h
  simp [quad?, ha, hb, hc, hd]

/-- A number outside the surrogates is that of a character. -/
theorem ofCode_of_scalar {n : Nat} (h : n < 0xD800 ∨ 0xDFFF < n) :
    LooseChar.ofCode n = .char (Char.ofNat n) := by
  unfold LooseChar.ofCode firstHalf
  rw [dif_neg]
  omega

/-- A letter that escapes a character is read as that character. -/
theorem letterEscape?_of_mem {e c : Char} (h : (e, c) ∈ letterEscapes) :
    letterEscape? e = some c := by
  have all : ∀ pair ∈ letterEscapes,
      letterEscape? pair.1 = some pair.2 := by
    decide
  exact all (e, c) h

section

variable {whole s left : List Char} {cs : LooseText}

/-- A character that needs no escape stands for itself. -/
theorem stringText_plain {c : Char} (quote : c ≠ '"')
    (backslash : c ≠ '\\') (control : 0x20 ≤ c.toNat)
    (h : stringText whole s = .ok (cs, left)) :
    stringText whole (c :: s) = .ok (.char c :: cs, left) := by
  have hcontrol : ¬ c.toNat < 0x20 := by omega
  rw [stringText.eq_def]
  dsimp only
  rw [if_neg quote, if_neg hcontrol, if_pos backslash, h]
  rfl

/-- A letter behind a backslash stands for what it escapes. -/
theorem stringText_letter {e c : Char} (he : (e, c) ∈ letterEscapes)
    (h : stringText whole s = .ok (cs, left)) :
    stringText whole ('\\' :: e :: s) = .ok (.char c :: cs, left) := by
  rw [stringText.eq_def]
  dsimp only
  rw [if_neg (by decide), if_neg (by decide), if_neg (by decide)]
  simp only [letterEscape?_of_mem he, h]
  rfl

/-- The letter of the numbered escapes escapes no character itself. -/
theorem letterEscape?_u : letterEscape? 'u' = none := by
  decide

/-- A number that is no surrogate stands for its character. -/
theorem stringText_numbered {a b c d : Char} {n : Nat}
    (quad : IsQuad a b c d n) (scalar : n < 0xD800 ∨ 0xDFFF < n)
    (hs : s ≠ []) (h : stringText whole s = .ok (cs, left)) :
    stringText whole ('\\' :: 'u' :: a :: b :: c :: d :: s)
      = .ok (.char (Char.ofNat n) :: cs, left) := by
  have hopens : opensPair n = false := by
    unfold opensPair
    simp only [Bool.and_eq_false_iff, decide_eq_false_iff_not]
    omega
  have hempty : s.isEmpty = false := by
    cases s with
    | nil => exact absurd rfl hs
    | cons x s => rfl
  rw [stringText, if_neg (by decide), if_neg (by decide),
    if_neg (by decide)]
  simp only [letterEscape?_u, hempty, quad?_of_isQuad quad, hopens,
    ne_eq, not_true, if_false, Bool.false_eq_true, Bool.false_and]
  split
  · simp only [h]
    rw [ofCode_of_scalar scalar]
    rfl
  · simp only [h]
    rw [ofCode_of_scalar scalar]
    rfl

/-- The numbers of a surrogate pair stand for one character. -/
theorem stringText_pair {a b c d e f g i : Char} {n m : Nat}
    (high : IsQuad a b c d n) (isHigh : 0xD800 ≤ n ∧ n ≤ 0xDBFF)
    (low : IsQuad e f g i m) (isLow : 0xDC00 ≤ m ∧ m ≤ 0xDFFF)
    (hs : s ≠ []) (h : stringText whole s = .ok (cs, left)) :
    stringText whole ('\\' :: 'u' :: a :: b :: c :: d
        :: '\\' :: 'u' :: e :: f :: g :: i :: s)
      = .ok (joined n m :: cs, left) := by
  have hopens : opensPair n = true := by
    simp [opensPair, isHigh]
  have hcloses : closesPair m = true := by
    simp [closesPair, isLow]
  have hempty : s.isEmpty = false := by
    cases s with
    | nil => exact absurd rfl hs
    | cons x s => rfl
  rw [stringText, if_neg (by decide), if_neg (by decide),
    if_neg (by decide)]
  simp only [letterEscape?_u, List.isEmpty_cons, hempty,
    quad?_of_isQuad high, quad?_of_isQuad low, hopens, hcloses, h,
    ne_eq, not_true, if_false, if_true, Bool.false_eq_true, beq_self_eq_true,
    Bool.and_self, Bool.not_false]
  rfl

end

/-- The reader gives the characters that stand between the quotes. -/
theorem stringText_between {t cs : List Char} (h : Between t cs)
    (whole rest : List Char) :
    stringText whole (t ++ '"' :: rest) = .ok (loose cs, rest) := by
  induction h with
  | nil =>
      rw [List.nil_append, stringText.eq_def]
      exact if_pos rfl
  | plain quote backslash control _ ih =>
      exact stringText_plain quote backslash control ih
  | letter escape _ ih => exact stringText_letter escape ih
  | numbered quad scalar _ ih =>
      exact stringText_numbered quad scalar (by simp) ih
  | pair high isHigh low isLow _ ih =>
      exact stringText_pair high isHigh low isLow (by simp) ih

/-- A string is read as the text that it spells. -/
theorem string_between {t : List Char} {s : String}
    (h : Between t s.toList) (rest : List Char) :
    string (t ++ '"' :: rest) = .ok (loosen s, rest) :=
  stringText_between h _ rest

-- ============================================================= numbers

/-- What is left does not go on with a number. -/
def EndsNumber (rest : List Char) : Prop :=
  ∀ c ∈ rest.head?, c.isDigit = false ∧ c ≠ '.' ∧ c ≠ 'e' ∧ c ≠ 'E'

/-- The digits of a number have its value. -/
theorem natOfDigits_digits (n : Nat) : natOfDigits (digits n) = n := by
  have fold (cs : List Char) (m : Nat) :
      cs.foldl (fun n d => 10 * n + (d.toNat - 0x30)) m
        = Nat.ofDigitChars 10 cs m := by
    induction cs generalizing m with
    | nil => exact Nat.ofDigitChars_nil.symm
    | cons c cs ih =>
        rw [List.foldl_cons, ih, Nat.ofDigitChars_cons]
        rfl
  rw [natOfDigits, fold]
  exact Nat.ofDigitChars_ten_toDigits

section

variable {rest : List Char}

/-- Digits are taken to their end. -/
theorem takeWhile_digits (hr : EndsNumber rest) (n : Nat) :
    (digits n ++ rest).takeWhile Char.isDigit = digits n
      ∧ (digits n ++ rest).dropWhile Char.isDigit = rest := by
  have hdigits : ∀ c ∈ digits n, c.isDigit = true := by
    intro c hc
    exact Reader.isDigit_of_mem_digits hc
  have hrest : rest.takeWhile Char.isDigit = []
      ∧ rest.dropWhile Char.isDigit = rest := by
    cases rest with
    | nil => exact ⟨rfl, rfl⟩
    | cons c rest => simp [(hr c rfl).1]
  rw [List.takeWhile_append_of_pos hdigits,
    List.dropWhile_append_of_pos hdigits, hrest.1, hrest.2,
    List.append_nil]
  exact ⟨rfl, rfl⟩

/-- All the digits are taken, and nothing behind them. -/
theorem wholePart_digits (hr : EndsNumber rest) (n : Nat) :
    wholePart (digits n ++ rest) = (digits n, rest) := by
  obtain ⟨htake, hdrop⟩ := takeWhile_digits hr n
  rcases Nat.eq_zero_or_pos n with hn | hn
  · subst hn
    rfl
  · have hhead := Reader.head?_digits hn
    unfold wholePart
    split
    · next rest' h =>
        cases hd : digits n with
        | nil => exact absurd hd Nat.toDigits_ne_nil
        | cons c cs =>
            rw [hd, List.cons_append] at h
            injection h with hc _
            rw [hd, hc] at hhead
            exact absurd rfl hhead
    · rw [htake, hdrop]

theorem fractionPart_none (hr : EndsNumber rest) :
    fractionPart rest = (none, rest) := by
  unfold fractionPart
  split
  · next rest' => exact absurd rfl (hr '.' rfl).2.1
  · rfl

theorem exponentPart_none (hr : EndsNumber rest) :
    exponentPart rest = (none, rest) := by
  unfold exponentPart
  cases rest with
  | nil => rfl
  | cons c rest =>
      obtain ⟨-, -, hsmall, hcapital⟩ := hr c rfl
      simp [hsmall, hcapital]

/-- Digits that are not too many are read as a whole number. -/
theorem unsignedNumber_digits (hr : EndsNumber rest) {n : Nat}
    (hn : (digits n).length ≤ digitLimit) (negative : Bool)
    (all : List Char) :
    unsignedNumber negative all (digits n ++ rest)
      = .ok (.int (if negative then -(n : Int) else n), rest) := by
  have hlimit : ¬ digitLimit < (digits n).length := Nat.not_lt.2 hn
  have hempty : (digits n).isEmpty = false := by
    cases hd : digits n with
    | nil => exact absurd hd Nat.toDigits_ne_nil
    | cons c cs => rfl
  unfold unsignedNumber
  simp only [wholePart_digits hr, hempty, fractionPart_none hr,
    exponentPart_none hr, natOfDigits_digits, Bool.false_eq_true, if_false,
    hlimit]

end

-- ============================================================= scalars

section

variable {rest : List Char}

theorem scalar_null : scalar ("null".toList ++ rest) = .ok (.null, rest) :=
  rfl

theorem scalar_bool (b : Bool) (form : Form) :
    scalar ((Json.bool b).write form ++ rest) = .ok (.bool b, rest) := by
  cases b <;> rfl

/-- No word begins with a digit. -/
theorem dropWord_eq_none {c : Char} (hc : c.isDigit = true)
    (s : List Char) :
    ∀ pair ∈ words, dropWord pair.1.toList (c :: s) = none := by
  have heads : ∀ pair ∈ words,
      (pair.1.toList.head?.any fun w => !w.isDigit) = true := by
    decide
  intro pair hpair
  have hhead := heads pair hpair
  cases hword : pair.1.toList with
  | nil => simp [hword] at hhead
  | cons w ws =>
      have hne : c ≠ w := by
        intro e
        simp [hword, ← e, hc] at hhead
      exact if_neg hne

theorem scalar_digits (hr : EndsNumber rest) {n : Nat}
    (hn : (digits n).length ≤ digitLimit) :
    scalar (digits n ++ rest) = .ok (.int n, rest) := by
  have hread := unsignedNumber_digits hr hn false
  cases hd : digits n with
  | nil => exact absurd hd Nat.toDigits_ne_nil
  | cons c cs =>
      have hc : c.isDigit = true :=
        Reader.isDigit_of_mem_digits (hd ▸ List.mem_cons_self)
      have hnone : (words.findSome? fun pair =>
          (dropWord pair.1.toList (c :: (cs ++ rest))).map
            fun left => (pair.2, left)) = none := by
        apply List.findSome?_eq_none_iff.2
        intro pair hpair
        rw [dropWord_eq_none hc _ pair hpair]
        rfl
      rw [hd] at hread
      rw [List.cons_append] at hread ⊢
      unfold scalar
      rw [hnone]
      dsimp only
      split
      · next left hminus =>
          injection hminus with hminus _
          subst hminus
          exact absurd hc (by decide)
      · exact hread _

theorem scalar_minus (hr : EndsNumber rest) {n : Nat}
    (hn : (digits n).length ≤ digitLimit) :
    scalar ('-' :: (digits n ++ rest)) = .ok (.int (-(n : Int)), rest) := by
  have hread := unsignedNumber_digits hr hn true
  cases hd : digits n with
  | nil => exact absurd hd Nat.toDigits_ne_nil
  | cons c cs =>
      have hc : c.isDigit = true :=
        Reader.isDigit_of_mem_digits (hd ▸ List.mem_cons_self)
      have hI : c ≠ 'I' := by
        intro e
        subst e
        exact absurd hc (by decide)
      have hnone : (words.findSome? fun pair =>
          (dropWord pair.1.toList ('-' :: c :: (cs ++ rest))).map
            fun left => (pair.2, left)) = none := by
        simp [words, dropWord, hI]
      rw [hd] at hread
      rw [List.cons_append] at hread ⊢
      unfold scalar
      rw [hnone]
      exact hread _

/-- What the printer writes for an integer is read as that integer. -/
theorem scalar_integer (hr : EndsNumber rest) {n : Int}
    (hn : (digits n.natAbs).length ≤ digitLimit) :
    scalar (integer n ++ rest) = .ok (.int n, rest) := by
  cases n with
  | ofNat n => exact scalar_digits hr hn
  | negSucc n => exact scalar_minus hr hn

/-- A zero may have a sign. -/
theorem scalar_minusZero (hr : EndsNumber rest) :
    scalar (['-', '0'] ++ rest) = .ok (.int 0, rest) :=
  scalar_minus (n := 0) hr (by decide)

end

end ApiMount.Json.Inline
