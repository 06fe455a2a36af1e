/-
Reading whole numbers. The digits that the printer writes for a number
are read as that number, as far as they are not too many and nothing
stands behind them that would go on with it (`number_integer`).

A number of the grammar never begins with a zero that another digit
follows, so its first digit decides how its whole part is read: zero
stands alone, and every other first digit begins a run.
-/
import ApiMount.Proofs.Json.Inside
import ApiMount.Proofs.Text.Utf8

namespace ApiMount.Json.Reader

open Utf8

-- ============================================================== digits

/-- The byte of a digit is a digit. -/
theorem isDigit_octet {c : Char} (h : c.isDigit) :
    isDigit (octet c) = true := by
  have hc : 0x30 ≤ c.toNat ∧ c.toNat ≤ 0x39 := Char.isDigit_iff_toNat.1 h
  unfold isDigit
  rw [Bool.and_eq_true, decide_eq_true_eq, decide_eq_true_eq,
    UInt8.le_iff_toNat_le, UInt8.le_iff_toNat_le,
    toNat_toUInt8 (by omega)]
  exact hc

/-- Digits are written of a number, and nothing else. -/
theorem isDigit_of_mem_digits {n : Nat} {c : Char} (h : c ∈ digits n) :
    c.isDigit :=
  Nat.isDigit_of_mem_toDigits (by decide) (by decide) h

theorem lt_of_mem_digits {n : Nat} {c : Char} (h : c ∈ digits n) :
    c.toNat < 0x80 := by
  have hc : c.toNat ≤ 0x39 :=
    (Char.isDigit_iff_toNat.1 (isDigit_of_mem_digits h)).2
  omega

/-- Digits take one byte each. -/
theorem encode_digits (n : Nat) :
    encode (digits n) = (digits n).map octet := by
  have all (cs : List Char) (h : ∀ c ∈ cs, c.toNat < 0x80) :
      encode cs = cs.map octet := by
    induction cs with
    | nil => rfl
    | cons c cs ih =>
        obtain ⟨hc, hcs⟩ := List.forall_mem_cons.1 h
        rw [encode_cons_of_lt hc, ih hcs, List.map_cons]
  exact all _ fun c h => lt_of_mem_digits h

/-- The bytes of a written number are digits. -/
theorem isDigit_of_mem_encode {n : Nat} {b : UInt8}
    (h : b ∈ encode (digits n)) : isDigit b = true := by
  rw [encode_digits, List.mem_map] at h
  obtain ⟨c, hc, rfl⟩ := h
  exact isDigit_octet (isDigit_of_mem_digits hc)

/-- The digits of a number spell it. -/
theorem natOfDigits_digits (n : Nat) :
    natOfDigits (encode (digits n)) = n := by
  have fold (cs : List Char) (h : ∀ c ∈ cs, c.toNat < 0x80) (m : Nat) :
      (cs.map octet).foldl (fun n d => 10 * n + (d.toNat - 0x30)) m
        = Nat.ofDigitChars 10 cs m := by
    induction cs generalizing m with
    | nil => exact Nat.ofDigitChars_nil.symm
    | cons c cs ih =>
        obtain ⟨hc, hcs⟩ := List.forall_mem_cons.1 h
        rw [List.map_cons, List.foldl_cons, toNat_toUInt8 hc, ih hcs,
          Nat.ofDigitChars_cons]
        rfl
  rw [encode_digits, natOfDigits, fold _ fun c h => lt_of_mem_digits h]
  exact Nat.ofDigitChars_ten_toDigits

/-- Only zero begins with a zero. -/
theorem head?_digits {n : Nat} (h : 0 < n) :
    (digits n).head? ≠ some '0' := by
  unfold digits
  -- the first digit of a number is that of its tenth part
  induction n using Nat.strongRecOn with
  | ind n ih =>
      rw [Nat.toDigits_eq_if (by decide)]
      by_cases hn : n < 10
      · rw [if_pos hn]
        intro e
        have hz : n = 0 := Nat.digitChar_eq_zero.1 (Option.some.inj e)
        omega
      · rw [if_neg hn, List.head?_append]
        have hne : (Nat.toDigits 10 (n / 10)).head? ≠ some '0' :=
          ih (n / 10) (by omega) (by omega)
        cases hd : (Nat.toDigits 10 (n / 10)).head? with
        | none =>
            have hnil := List.head?_eq_none_iff.1 hd
            exact absurd hnil Nat.toDigits_ne_nil
        | some c =>
            rw [hd] at hne
            exact hne

/-- A number begins with a digit. -/
theorem encode_digits_cons (n : Nat) :
    ∃ b bs, encode (digits n) = b :: bs ∧ isDigit b = true := by
  cases hd : encode (digits n) with
  | nil =>
      rw [encode_digits, List.map_eq_nil_iff] at hd
      exact absurd hd Nat.toDigits_ne_nil
  | cons b bs =>
      exact ⟨b, bs, rfl, isDigit_of_mem_encode (hd ▸ List.mem_cons_self)⟩

/-- Only zero begins with a zero byte. -/
theorem ne_of_encode_digits {n : Nat} (hn : 0 < n) {b : UInt8}
    {bs : List UInt8} (h : encode (digits n) = b :: bs) :
    b ≠ octet '0' := by
  rw [encode_digits] at h
  cases hd : digits n with
  | nil => exact absurd hd Nat.toDigits_ne_nil
  | cons c cs =>
      rw [hd, List.map_cons] at h
      injection h with hb hbs
      have hc : c.toNat < 0x80 :=
        lt_of_mem_digits (hd ▸ List.mem_cons_self)
      rintro rfl
      have hzero := congrArg UInt8.toNat hb
      rw [toNat_toUInt8 hc] at hzero
      have : c = '0' := Char.toNat_inj.1 hzero
      exact head?_digits hn (by rw [hd, this]; rfl)

-- ============================================================= numbers

/-- What is left does not go on with a number. -/
def EndsNumber (rest : List UInt8) : Prop :=
  ∀ b ∈ rest.head?, isDigit b = false ∧ b ≠ octet '.' ∧ b ≠ octet 'e'
    ∧ b ≠ octet 'E'

variable {rest : List UInt8}

/-- A run of digits is read up to its end. -/
theorem digitRun_digits (hr : EndsNumber rest) {b : UInt8}
    {ds : List UInt8} (hds : ∀ d ∈ b :: ds, isDigit d = true) :
    digitRun (b :: ds ++ rest) = .ok (b :: ds, rest) := by
  have hnone : rest.takeWhile isDigit = [] := by
    cases rest with
    | nil => rfl
    | cons c rest =>
        exact List.takeWhile_cons_of_neg
          (by rw [(hr c rfl).1]; exact Bool.false_ne_true)
  have hall : rest.dropWhile isDigit = rest := by
    have h := List.takeWhile_append_dropWhile (p := isDigit) (l := rest)
    rwa [hnone] at h
  rw [List.cons_append, digitRun, if_pos (hds b List.mem_cons_self),
    ← List.cons_append, List.takeWhile_append_of_pos hds,
    List.dropWhile_append_of_pos hds, hnone, hall, List.append_nil]

/-- The digits of a number are read as a whole part: there is no leading
zero. -/
theorem wholePart_digits (hr : EndsNumber rest) (n : Nat) :
    wholePart (encode (digits n) ++ rest)
      = .ok (encode (digits n), rest) := by
  -- zero is the one number that starts with its digit
  rcases Nat.eq_zero_or_pos n with rfl | hn
  · show wholePart (octet '0' :: rest) = .ok ([octet '0'], rest)
    unfold wholePart
    show (if octet '0' = octet '0' then _ else _) = _
    rw [if_pos rfl]
    cases rest with
    | nil => rfl
    | cons c rest =>
        refine if_neg ?_
        rw [(hr c rfl).1]
        exact Bool.false_ne_true
  · obtain ⟨b, bs, h, -⟩ := encode_digits_cons n
    have hds : ∀ d ∈ b :: bs, isDigit d = true := fun d hd =>
      isDigit_of_mem_encode (n := n) (h ▸ hd)
    have hz := ne_of_encode_digits hn h
    rw [h]
    exact (if_neg hz).trans (digitRun_digits hr hds)

theorem fractionPart_none (hr : EndsNumber rest) :
    fractionPart rest = .ok (none, rest) := by
  cases rest with
  | nil => rfl
  | cons c rest => exact if_neg (hr c rfl).2.1

theorem exponentPart_none (hr : EndsNumber rest) :
    exponentPart rest = .ok (none, rest) := by
  cases rest with
  | nil => rfl
  | cons c rest =>
      obtain ⟨-, -, he, hE⟩ := hr c rfl
      refine if_neg ?_
      rw [Bool.or_eq_true, decide_eq_true_eq, decide_eq_true_eq]
      exact not_or.2 ⟨he, hE⟩

/-- Digits that are not too many are read as a whole number. -/
theorem unsignedNumber_digits (hr : EndsNumber rest) {n : Nat}
    (hn : (digits n).length ≤ wholeLimit) (negative : Bool) :
    unsignedNumber negative (encode (digits n) ++ rest)
      = .ok (.int (if negative then -(n : Int) else n), rest) := by
  have hl : ¬ wholeLimit < (encode (digits n)).length := by
    rw [encode_digits, List.length_map]
    exact Nat.not_lt.2 hn
  rw [unsignedNumber, wholePart_digits hr]
  simp only [bind, Except.bind]
  rw [if_neg hl, fractionPart_none hr]
  simp only []
  rw [exponentPart_none hr, natOfDigits_digits]
  rfl

theorem number_digits (hr : EndsNumber rest) {n : Nat}
    (hn : (digits n).length ≤ wholeLimit) :
    number (encode (digits n) ++ rest) = .ok (.int n, rest) := by
  have hplain := unsignedNumber_digits hr hn false
  obtain ⟨b, bs, h, hd⟩ := encode_digits_cons n
  have hb : b ≠ octet '-' := by
    rintro rfl
    exact absurd hd (by decide)
  rw [h] at hplain ⊢
  exact (if_neg hb).trans hplain

theorem number_minus (hr : EndsNumber rest) {n : Nat}
    (hn : (digits n).length ≤ wholeLimit) :
    number (octet '-' :: (encode (digits n) ++ rest))
      = .ok (.int (-(n : Int)), rest) := by
  have hplain := unsignedNumber_digits hr hn true
  obtain ⟨b, bs, h, hd⟩ := encode_digits_cons n
  have hb : b ≠ octet 'I' := by
    rintro rfl
    exact absurd hd (by decide)
  rw [h] at hplain ⊢
  unfold number
  show (if octet '-' = octet '-' then _ else _) = _
  rw [if_pos rfl]
  exact (if_neg hb).trans hplain

/-- What the printer writes for an integer is read as that integer. -/
theorem number_integer (hr : EndsNumber rest) {n : Int}
    (hn : (digits n.natAbs).length ≤ wholeLimit) :
    number (encode (integer n) ++ rest) = .ok (.int n, rest) := by
  cases n with
  | ofNat n => exact number_digits hr hn
  | negSucc n =>
      rw [integer, encode_cons_of_lt (by decide), List.cons_append]
      exact number_minus hr hn

/-- A zero may have a sign. -/
theorem number_minusZero (hr : EndsNumber rest) :
    number (encode ['-', '0'] ++ rest) = .ok (.int 0, rest) :=
  number_minus (n := 0) hr (by decide)

end ApiMount.Json.Reader
