/-
Reading strings. Whatever stands between the quotes in the grammar, the
reader gives the characters that it stands for (`string_between`). Inside
a string the reader works on bytes and looks only for the quote, the
backslash and what lies below 0x20; the bytes of a character beyond ASCII
are none of these and pass through (`stringBytes_append`).
-/
import ApiMount.Proofs.Json.Grammar
import ApiMount.Proofs.Text.Utf8

namespace ApiMount.Json.Reader

open Text Utf8

variable {rest : List UInt8}

-- ======================================================= hexadecimal digits

theorem toNat_of_hexValue? {c : Char} {x : Nat}
    (h : hexValue? c = some x) : c.toNat < 0x80 := by
  unfold hexValue? at h
  have le (d : Char) (hd : c ≤ d) : c.toNat ≤ d.toNat := hd
  split at h
  case isTrue hc =>
    simp only [Bool.and_eq_true, decide_eq_true_eq] at hc
    have : c.toNat ≤ 0x39 := le '9' hc.2
    omega
  case isFalse =>
    split at h
    case isTrue hc =>
      simp only [Bool.and_eq_true, decide_eq_true_eq] at hc
      have : c.toNat ≤ 0x66 := le 'f' hc.2
      omega
    case isFalse =>
      split at h
      case isTrue hc =>
        simp only [Bool.and_eq_true, decide_eq_true_eq] at hc
        have : c.toNat ≤ 0x46 := le 'F' hc.2
        omega
      case isFalse => cases h

theorem hexOctet?_octet {c : Char} {x : Nat} (h : hexValue? c = some x) :
    hexOctet? (octet c) = some x := by
  unfold hexOctet?
  rw [toNat_toUInt8 (toNat_of_hexValue? h), Char.ofNat_toNat]
  exact h

/-- The four digits of an escape are four bytes. -/
theorem encode_quad {a b c d : Char} {n : Nat} (h : IsQuad a b c d n)
    (t : List Char) :
    encode (a :: b :: c :: d :: t)
      = octet a :: octet b :: octet c :: octet d :: encode t := by
  obtain ⟨x, y, z, w, ha, hb, hc, hd, -⟩ := h
  rw [encode_cons_of_lt (toNat_of_hexValue? ha),
    encode_cons_of_lt (toNat_of_hexValue? hb),
    encode_cons_of_lt (toNat_of_hexValue? hc),
    encode_cons_of_lt (toNat_of_hexValue? hd)]

/-- The four digits of an escape are read as their number. -/
theorem hexQuad_of_isQuad {a b c d : Char} {n : Nat}
    (h : IsQuad a b c d n) (rest : List UInt8) :
    hexQuad (octet a) (octet b) (octet c) (octet d) rest = .ok n := by
  obtain ⟨x, y, z, w, ha, hb, hc, hd, rfl⟩ := h
  unfold hexQuad
  rw [hexOctet?_octet ha, hexOctet?_octet hb, hexOctet?_octet hc,
    hexOctet?_octet hd]

-- ================================================================ bytes

/-- A byte that a string holds as it stands. -/
def PassesThrough (b : UInt8) : Prop :=
  b ≠ octet '"' ∧ ¬ b < 0x20 ∧ b ≠ octet '\\'

section

variable {s bs left : List UInt8}

/-- A byte that needs no attention stands for itself. -/
theorem stringBytes_cons {b : UInt8} (hb : PassesThrough b)
    (h : stringBytes s = .ok (bs, left)) :
    stringBytes (b :: s) = .ok (b :: bs, left) := by
  unfold stringBytes at h ⊢
  rw [stringBytesAfter, if_neg hb.1, if_neg hb.2.1, if_pos hb.2.2, h]
  rfl

/-- Bytes that pass through come out in front of what follows them. -/
theorem stringBytes_append {ts : List UInt8}
    (ht : ∀ b ∈ ts, PassesThrough b)
    (h : stringBytes s = .ok (bs, left)) :
    stringBytes (ts ++ s) = .ok (ts ++ bs, left) := by
  induction ts with
  | nil => exact h
  | cons b ts ih =>
      obtain ⟨hb, hts⟩ := List.forall_mem_cons.1 ht
      exact stringBytes_cons hb (ih hts)

/-- Bytes that were read as part of an escape are left out. -/
theorem stringBytesAfter_append (read s : List UInt8) :
    stringBytesAfter read.length (read ++ s) = stringBytes s := by
  induction read with
  | nil => rfl
  | cons b read ih =>
      rw [List.length_cons, List.cons_append, stringBytesAfter, ih]

/-- An escape comes out as what it stands for. -/
theorem stringBytes_escape {read cs : List UInt8}
    (he : escape (read ++ s) = .ok (cs, read.length))
    (h : stringBytes s = .ok (bs, left)) :
    stringBytes (octet '\\' :: (read ++ s)) = .ok (cs ++ bs, left) := by
  unfold stringBytes
  rw [stringBytesAfter, if_neg (by decide), if_neg (by decide),
    if_neg (by decide), he]
  simp only [bind, Except.bind]
  rw [stringBytesAfter_append, h]
  rfl

end

/-- The bytes of a character that needs no escape pass through. -/
theorem passesThrough_of_mem {c : Char} (quote : c ≠ '"')
    (backslash : c ≠ '\\') (control : 0x20 ≤ c.toNat) {b : UInt8}
    (hb : b ∈ String.utf8EncodeChar c) : PassesThrough b := by
  have hn : b.toNat ≠ 0x22 ∧ 0x20 ≤ b.toNat ∧ b.toNat ≠ 0x5C := by
    -- a byte beyond U+007F is no character of its own
    by_cases h : c.toNat < 0x80
    · rw [utf8EncodeChar_of_lt h, List.mem_singleton] at hb
      have hc : b.toNat = c.toNat := by rw [hb, toNat_toUInt8 h]
      rw [hc]
      exact ⟨fun e => quote (Char.toNat_inj.1 e), control,
        fun e => backslash (Char.toNat_inj.1 e)⟩
    · have hge := le_of_mem_utf8EncodeChar (by omega) hb
      omega
  refine ⟨?_, ?_, ?_⟩
  · exact fun e => hn.1 (congrArg UInt8.toNat e)
  · rw [UInt8.lt_iff_toNat_lt]
    exact Nat.not_lt.2 hn.2.1
  · exact fun e => hn.2.2 (congrArg UInt8.toNat e)

/-- A letter that escapes a character is one byte, and so is the
character. -/
theorem letterEscape?_of_mem {e c : Char} (h : (e, c) ∈ letterEscapes) :
    e.toNat < 0x80 ∧ c.toNat < 0x80
      ∧ letterEscape? (octet e) = some (octet c) := by
  have all : ∀ pair ∈ letterEscapes,
      pair.1.toNat < 0x80 ∧ pair.2.toNat < 0x80
        ∧ letterEscape? (octet pair.1) = some (octet pair.2) := by
    decide
  exact all (e, c) h

-- ============================================================= escapes

section

variable {s : List UInt8}

/-- A letter behind a backslash stands for what it escapes. -/
theorem escape_letter {e c : UInt8} (he : letterEscape? e = some c) :
    escape ([e] ++ s) = .ok ([c], 1) := by
  rw [List.singleton_append, escape, he]

/-- The letter of the numbered escapes leads to the digits. -/
theorem escape_u : escape (octet 'u' :: s)
    = (numberedEscape s).map fun (bs, n) => (bs, n + 1) := by
  have hu : letterEscape? (octet 'u') = none := by decide
  rw [escape, hu]
  simp only []
  rw [if_neg (by decide)]
  cases numberedEscape s <;> rfl

/-- A numbered escape, whose digits are given, comes out as what it
stands for. -/
theorem stringBytes_numbered (read : List UInt8) {cs bs left : List UInt8}
    (hn : numberedEscape (read ++ s) = .ok (cs, read.length))
    (h : stringBytes s = .ok (bs, left)) :
    stringBytes (octet '\\' :: octet 'u' :: (read ++ s))
      = .ok (cs ++ bs, left) := by
  have he : escape ((octet 'u' :: read) ++ s)
      = .ok (cs, (octet 'u' :: read).length) := by
    rw [List.cons_append, escape_u, hn]
    rfl
  exact stringBytes_escape he h

/-- A number outside the range is no second half. -/
theorem isLowSurrogate_eq_false {n : Nat}
    (h : n < 0xDC00 ∨ 0xDFFF < n) : isLowSurrogate n = false := by
  unfold isLowSurrogate
  rw [Bool.and_eq_false_iff, decide_eq_false_iff_not,
    decide_eq_false_iff_not]
  omega

/-- A number that is no surrogate stands for its character. -/
theorem numberedEscape_scalar {a b c d : Char} {n : Nat}
    (hq : IsQuad a b c d n) (scalar : n < 0xD800 ∨ 0xDFFF < n) :
    numberedEscape (octet a :: octet b :: octet c :: octet d :: s)
      = .ok (String.utf8EncodeChar (Char.ofNat n), 4) := by
  have low : isLowSurrogate n = false :=
    isLowSurrogate_eq_false (by omega)
  have high : isHighSurrogate n = false := by
    unfold isHighSurrogate
    rw [Bool.and_eq_false_iff, decide_eq_false_iff_not,
      decide_eq_false_iff_not]
    omega
  rw [numberedEscape, hexQuad_of_isQuad hq]
  simp only [bind, Except.bind, low, high, Bool.false_eq_true, if_false]
  rfl

/-- Behind a first half the second half of a pair is read. -/
theorem secondHalf_of_isQuad {e f g i : Char} {n m : Nat}
    (hm : IsQuad e f g i m) (isLow : 0xDC00 ≤ m ∧ m ≤ 0xDFFF) :
    secondHalf n (octet '\\' :: octet 'u' :: octet e :: octet f
        :: octet g :: octet i :: s)
      = .ok (String.utf8EncodeChar (pairChar n m)) := by
  have low : isLowSurrogate m = true := by
    unfold isLowSurrogate
    rw [Bool.and_eq_true, decide_eq_true_eq, decide_eq_true_eq]
    exact isLow
  rw [secondHalf, if_neg (by decide), if_neg (by decide),
    hexQuad_of_isQuad hm]
  simp only [bind, Except.bind, low, if_true]
  rfl

/-- The numbers of a surrogate pair stand for one character. -/
theorem numberedEscape_pair {a b c d e f g i : Char} {n m : Nat}
    (hn : IsQuad a b c d n) (isHigh : 0xD800 ≤ n ∧ n ≤ 0xDBFF)
    (hm : IsQuad e f g i m) (isLow : 0xDC00 ≤ m ∧ m ≤ 0xDFFF) :
    numberedEscape (octet a :: octet b :: octet c :: octet d
        :: octet '\\' :: octet 'u' :: octet e :: octet f :: octet g
        :: octet i :: s)
      = .ok (String.utf8EncodeChar (pairChar n m), 10) := by
  have low : isLowSurrogate n = false :=
    isLowSurrogate_eq_false (by omega)
  have high : isHighSurrogate n = true := by
    unfold isHighSurrogate
    rw [Bool.and_eq_true, decide_eq_true_eq, decide_eq_true_eq]
    exact isHigh
  rw [numberedEscape, hexQuad_of_isQuad hn]
  simp only [bind, Except.bind, low, high, Bool.false_eq_true, if_false,
    if_true]
  rw [secondHalf_of_isQuad hm isLow]
  rfl

end

-- ============================================================== strings

/-- The reader gives the bytes of the characters that stand between the
quotes. -/
theorem stringBytes_between {t cs : List Char} (h : Between t cs) :
    stringBytes (encode t ++ octet '"' :: rest)
      = .ok (encode cs, rest) := by
  -- by the way each character is spelled
  induction h with
  | nil =>
      rw [encode_nil, List.nil_append, stringBytes.eq_def]
      exact if_pos rfl
  | plain quote backslash control _ ih =>
      rw [encode_cons, List.append_assoc, encode_cons]
      exact stringBytes_append
        (fun b hb => passesThrough_of_mem quote backslash control hb) ih
  | letter escape _ ih =>
      obtain ⟨he, hc, hmeans⟩ := letterEscape?_of_mem escape
      rw [encode_cons_of_lt (by decide), encode_cons_of_lt he,
        encode_cons_of_lt hc]
      exact stringBytes_escape (escape_letter hmeans) ih
  | numbered quad scalar _ ih =>
      rw [encode_cons_of_lt (by decide), encode_cons_of_lt (by decide),
        encode_quad quad, encode_cons]
      exact stringBytes_numbered [_, _, _, _]
        (numberedEscape_scalar quad scalar) ih
  | pair high isHigh low isLow _ ih =>
      rw [encode_cons_of_lt (by decide), encode_cons_of_lt (by decide),
        encode_quad high, encode_cons_of_lt (by decide),
        encode_cons_of_lt (by decide), encode_quad low, encode_cons]
      exact stringBytes_numbered [_, _, _, _, _, _, _, _, _, _]
        (numberedEscape_pair high isHigh low isLow) ih

/-- A string is read as the text that it spells. -/
theorem string_between {t : List Char} {s : String}
    (h : Between t s.toList) :
    string (encode t ++ octet '"' :: rest) = .ok (s, rest) := by
  unfold string
  rw [stringBytes_between h]
  simp only [bind, Except.bind, decode_encode, String.ofList_toList]
  rfl

end ApiMount.Json.Reader
