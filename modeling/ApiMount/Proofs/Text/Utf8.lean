/-
UTF-8 is read back as it was written (`decode_encode`): whatever the
characters, decoding their bytes gives them again. The decoder is said
once for each length of a sequence, on the numbers that its bytes are
(`decodeFrom_one` to `decodeFrom_four`); the bytes of a character are
then one of these four.
-/
import ApiMount.Text.Utf8

namespace ApiMount.Utf8

-- ============================================================= encoding

@[simp] theorem encode_nil : encode [] = [] := rfl

theorem encode_cons (c : Char) (cs : List Char) :
    encode (c :: cs) = String.utf8EncodeChar c ++ encode cs := rfl

/-- Texts are encoded one after the other. -/
theorem encode_append (s t : List Char) :
    encode (s ++ t) = encode s ++ encode t :=
  List.flatMap_append

/-- Every character takes a byte at least. -/
theorem length_le_encode (cs : List Char) :
    cs.length ≤ (encode cs).length := by
  induction cs with
  | nil => exact Nat.le_refl 0
  | cons c cs ih =>
      have hc := c.utf8Size_pos
      rw [encode_cons, List.length_append, String.length_utf8EncodeChar,
        List.length_cons]
      omega

/-- Below 0x80 a character is its own byte. -/
theorem utf8EncodeChar_of_lt {c : Char} (h : c.toNat < 0x80) :
    String.utf8EncodeChar c = [c.toUInt8] := by
  have hv : c.val.toNat ≤ 0x7F := by
    have : c.val.toNat = c.toNat := rfl
    omega
  unfold String.utf8EncodeChar
  exact if_pos hv

/-- A character below U+0080 is one byte. -/
theorem encode_cons_of_lt {c : Char} (h : c.toNat < 0x80)
    (cs : List Char) : encode (c :: cs) = c.toUInt8 :: encode cs := by
  rw [encode_cons, utf8EncodeChar_of_lt h, List.singleton_append]

theorem toNat_toUInt8 {c : Char} (h : c.toNat < 0x80) :
    c.toUInt8.toNat = c.toNat := by
  have hb : c.toUInt8.toNat = c.toNat % 256 := rfl
  omega

/-- From 0x80 on, every byte of a character is at least that. -/
theorem le_of_mem_utf8EncodeChar {c : Char} (h : 0x80 ≤ c.toNat)
    {b : UInt8} (hb : b ∈ String.utf8EncodeChar c) : 0x80 ≤ b.toNat := by
  have hv : c.val.toNat = c.toNat := rfl
  have byte (n : Nat) : (UInt8.ofNat n).toNat = n % 256 :=
    UInt8.toNat_ofNat'
  have tail (n : Nat) : 0x80 ≤ (UInt8.ofNat (n % 0x40 + 0x80)).toNat := by
    rw [byte]
    omega
  unfold String.utf8EncodeChar at hb
  rw [hv, if_neg (by omega)] at hb
  -- by the number of bytes; the first has its own offset, the others 0x80
  by_cases h₂ : c.toNat ≤ 0x7FF
  · rw [if_pos h₂] at hb
    simp only [List.mem_cons, List.not_mem_nil, or_false] at hb
    rcases hb with rfl | rfl
    · rw [byte]
      omega
    · exact tail _
  · rw [if_neg h₂] at hb
    by_cases h₃ : c.toNat ≤ 0xFFFF
    · rw [if_pos h₃] at hb
      simp only [List.mem_cons, List.not_mem_nil, or_false] at hb
      rcases hb with rfl | rfl | rfl
      · rw [byte]
        omega
      · exact tail _
      · exact tail _
    · rw [if_neg h₃] at hb
      simp only [List.mem_cons, List.not_mem_nil, or_false] at hb
      rcases hb with rfl | rfl | rfl | rfl
      · rw [byte]
        omega
      · exact tail _
      · exact tail _
      · exact tail _

-- ============================================== one sequence of bytes

variable {pos : Nat} {a b c d : UInt8} {rest : List UInt8}

/-- The range of the bytes that continue a character. -/
theorem isTail_iff :
    isTail b = true ↔ 0x80 ≤ b.toNat ∧ b.toNat ≤ 0xBF := by
  simp [isTail, UInt8.le_iff_toNat_le]

/-- The range of a second byte of three: no overlong form, and no
surrogate. -/
theorem isSecondOfThree_iff :
    isSecondOfThree a b = true
      ↔ (0x80 ≤ b.toNat ∧ b.toNat ≤ 0xBF)
        ∧ (a.toNat = 0xE0 → 0xA0 ≤ b.toNat)
        ∧ (a.toNat = 0xED → b.toNat ≤ 0x9F) := by
  simp only [isSecondOfThree, Bool.and_eq_true, Bool.or_eq_true,
    bne_iff_ne, ne_eq, decide_eq_true_eq, isTail_iff, UInt8.le_iff_toNat_le,
    ← UInt8.toNat_inj, UInt8.reduceToNat]
  omega

/-- The range of a second byte of four: no overlong form, and nothing
beyond U+10FFFF. -/
theorem isSecondOfFour_iff :
    isSecondOfFour a b = true
      ↔ (0x80 ≤ b.toNat ∧ b.toNat ≤ 0xBF)
        ∧ (a.toNat = 0xF0 → 0x90 ≤ b.toNat)
        ∧ (a.toNat = 0xF4 → b.toNat ≤ 0x8F) := by
  simp only [isSecondOfFour, Bool.and_eq_true, Bool.or_eq_true,
    bne_iff_ne, ne_eq, decide_eq_true_eq, isTail_iff, UInt8.le_iff_toNat_le,
    ← UInt8.toNat_inj, UInt8.reduceToNat]
  omega

theorem decodeFrom_one (ha : a.toNat < 0x80) :
    decodeFrom pos (a :: rest)
      = (Char.ofNat a.toNat :: ·) <$> decodeFrom (pos + 1) rest := by
  have h : a < 0x80 := UInt8.lt_iff_toNat_lt.2 ha
  rw [decodeFrom.eq_def]
  simp only []
  rw [if_pos h]

theorem decodeFrom_two (ha : 0xC2 ≤ a.toNat ∧ a.toNat ≤ 0xDF)
    (hb : isTail b = true) :
    decodeFrom pos (a :: b :: rest)
      = (Char.ofNat ((a.toNat - 0xC0) * 0x40 + tailBits b) :: ·)
        <$> decodeFrom (pos + 2) rest := by
  have h₁ : ¬ a < 0x80 := by
    rw [UInt8.lt_iff_toNat_lt]
    simp only [UInt8.reduceToNat]
    omega
  have h₂ : (0xC2 ≤ a && a ≤ 0xDF) = true := by
    simpa [UInt8.le_iff_toNat_le] using ha
  rw [decodeFrom.eq_def]
  simp only []
  rw [if_neg h₁]
  simp only [h₂, hb, if_true]

theorem decodeFrom_three (ha : 0xE0 ≤ a.toNat ∧ a.toNat ≤ 0xEF)
    (hb : isSecondOfThree a b = true) (hc : isTail c = true) :
    decodeFrom pos (a :: b :: c :: rest)
      = (Char.ofNat ((a.toNat - 0xE0) * 0x1000 + tailBits b * 0x40
          + tailBits c) :: ·)
        <$> decodeFrom (pos + 3) rest := by
  have h₁ : ¬ a < 0x80 := by
    rw [UInt8.lt_iff_toNat_lt]
    simp only [UInt8.reduceToNat]
    omega
  have h₂ : (0xC2 ≤ a && a ≤ 0xDF) = false := by
    simp [UInt8.le_iff_toNat_le]
    omega
  have h₃ : (0xE0 ≤ a && a ≤ 0xEF) = true := by
    simpa [UInt8.le_iff_toNat_le] using ha
  rw [decodeFrom.eq_def]
  simp only []
  rw [if_neg h₁]
  simp only [h₂, h₃, hb, hc, Bool.and_self, if_true, Bool.false_eq_true,
    if_false]

theorem decodeFrom_four (ha : 0xF0 ≤ a.toNat ∧ a.toNat ≤ 0xF4)
    (hb : isSecondOfFour a b = true) (hc : isTail c = true)
    (hd : isTail d = true) :
    decodeFrom pos (a :: b :: c :: d :: rest)
      = (Char.ofNat ((a.toNat - 0xF0) * 0x40000 + tailBits b * 0x1000
          + tailBits c * 0x40 + tailBits d) :: ·)
        <$> decodeFrom (pos + 4) rest := by
  have h₁ : ¬ a < 0x80 := by
    rw [UInt8.lt_iff_toNat_lt]
    simp only [UInt8.reduceToNat]
    omega
  have h₂ : (0xC2 ≤ a && a ≤ 0xDF) = false := by
    simp [UInt8.le_iff_toNat_le]
    omega
  have h₃ : (0xE0 ≤ a && a ≤ 0xEF) = false := by
    simp [UInt8.le_iff_toNat_le]
    omega
  have h₄ : (0xF0 ≤ a && a ≤ 0xF4) = true := by
    simpa [UInt8.le_iff_toNat_le] using ha
  rw [decodeFrom.eq_def]
  simp only []
  rw [if_neg h₁]
  simp only [h₂, h₃, h₄, hb, hc, hd, Bool.and_self, if_true,
    Bool.false_eq_true, if_false]

/-- A character is below the surrogates or beyond them, and within
Unicode. -/
theorem scalar_toNat (c : Char) :
    (c.toNat < 0xD800 ∨ 0xDFFF < c.toNat) ∧ c.toNat < 0x110000 := by
  rcases c.valid with h | ⟨h, k⟩
  · have : c.toNat < 0xD800 := h
    omega
  · have : 0xDFFF < c.toNat := h
    have : c.toNat < 0x110000 := k
    omega

/-- The number of a character gives the character. -/
theorem ofNat_eq {n : Nat} {x : Char} (h : n = x.toNat) :
    Char.ofNat n = x := by
  rw [h, Char.ofNat_toNat]

/-- A character's bytes are read as that character. -/
theorem decodeFrom_utf8EncodeChar (pos : Nat) (x : Char)
    (rest : List UInt8) :
    ∃ next, decodeFrom pos (String.utf8EncodeChar x ++ rest)
      = (x :: ·) <$> decodeFrom next rest := by
  obtain ⟨hs, hm⟩ := scalar_toNat x
  have hv : x.val.toNat = x.toNat := rfl
  have byte (n : Nat) : (UInt8.ofNat n).toNat = n % 256 :=
    UInt8.toNat_ofNat'
  have bits (n : Nat) : tailBits (UInt8.ofNat n) = n % 256 - 0x80 :=
    congrArg (· - 0x80) (byte n)
  have tail (n : Nat) : isTail (UInt8.ofNat (n % 0x40 + 0x80)) = true := by
    rw [isTail_iff, byte]
    omega
  unfold String.utf8EncodeChar
  rw [hv]
  -- by the number of bytes, each with the ranges that its form allows
  by_cases h₁ : x.toNat ≤ 0x7F
  · refine ⟨pos + 1, ?_⟩
    rw [if_pos h₁, List.singleton_append,
      decodeFrom_one (by rw [byte]; omega),
      ofNat_eq (x := x) (by rw [byte]; omega)]
  · by_cases h₂ : x.toNat ≤ 0x7FF
    · refine ⟨pos + 2, ?_⟩
      rw [if_neg h₁, if_pos h₂, List.cons_append, List.singleton_append,
        decodeFrom_two (by rw [byte]; omega) (tail _),
        ofNat_eq (x := x) (by rw [bits, byte]; omega)]
    · by_cases h₃ : x.toNat ≤ 0xFFFF
      · refine ⟨pos + 3, ?_⟩
        rw [if_neg h₁, if_neg h₂, if_pos h₃, List.cons_append,
          List.cons_append, List.singleton_append,
          decodeFrom_three (by rw [byte]; omega)
            (by rw [isSecondOfThree_iff, byte, byte]; omega) (tail _),
          ofNat_eq (x := x) (by rw [bits, bits, byte]; omega)]
      · refine ⟨pos + 4, ?_⟩
        rw [if_neg h₁, if_neg h₂, if_neg h₃, List.cons_append,
          List.cons_append, List.cons_append, List.singleton_append,
          decodeFrom_four (by rw [byte]; omega)
            (by rw [isSecondOfFour_iff, byte, byte]; omega) (tail _)
            (tail _),
          ofNat_eq (x := x) (by rw [bits, bits, bits, byte]; omega)]

/-- What is encoded is decoded, and nothing is left. -/
theorem decode_encode (cs : List Char) : decode (encode cs) = .ok cs := by
  unfold decode
  generalize 0 = pos
  induction cs generalizing pos with
  | nil => rfl
  | cons c cs ih =>
    obtain ⟨next, h⟩ := decodeFrom_utf8EncodeChar pos c (encode cs)
    have : encode (c :: cs) = String.utf8EncodeChar c ++ encode cs := rfl
    rw [this, h, ih next]
    rfl
end ApiMount.Utf8
