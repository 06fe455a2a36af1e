/-
UTF-8 on lists of bytes. `decode` accepts exactly the shortest forms of
the Unicode scalar values: no overlong form, no surrogate, nothing
beyond U+10FFFF. A refusal names the number of bytes before the first
bad sequence, which is what a report of the fault needs.
-/

namespace ApiMount.Utf8

/-- The bytes of a list of characters. -/
def encode (cs : List Char) : List UInt8 := cs.flatMap String.utf8EncodeChar

/-- The bytes of a text. -/
def bytes (s : String) : List UInt8 := encode s.toList

/-- Whether a byte continues a sequence. -/
def isTail (b : UInt8) : Bool := 0x80 ≤ b && b ≤ 0xBF

/-- Whether `b` may follow the lead byte `a` of a sequence of three:
after E0 it must not make an overlong form, after ED not a surrogate. -/
def isSecondOfThree (a b : UInt8) : Bool :=
  isTail b && (a != 0xE0 || 0xA0 ≤ b) && (a != 0xED || b ≤ 0x9F)

/-- Whether `b` may follow the lead byte `a` of a sequence of four:
after F0 it must not make an overlong form, after F4 not pass
U+10FFFF. -/
def isSecondOfFour (a b : UInt8) : Bool :=
  isTail b && (a != 0xF0 || 0x90 ≤ b) && (a != 0xF4 || b ≤ 0x8F)

/-- The six bits that a continuation byte carries. -/
def tailBits (b : UInt8) : Nat := b.toNat - 0x80

/-- The characters of a list of bytes; `pos` bytes came before. The
error is the number of bytes before the first bad sequence. -/
def decodeFrom (pos : Nat) : List UInt8 → Except Nat (List Char)
  | [] => .ok []
  | a :: rest =>
    if a < 0x80 then
      (Char.ofNat a.toNat :: ·) <$> decodeFrom (pos + 1) rest
    else
      match rest with
      | [] => .error pos
      | b :: rest =>
        if 0xC2 ≤ a && a ≤ 0xDF then
          if isTail b then
            (Char.ofNat ((a.toNat - 0xC0) * 0x40 + tailBits b) :: ·)
              <$> decodeFrom (pos + 2) rest
          else .error pos
        else
          match rest with
          | [] => .error pos
          | c :: rest =>
            if 0xE0 ≤ a && a ≤ 0xEF then
              if isSecondOfThree a b && isTail c then
                (Char.ofNat ((a.toNat - 0xE0) * 0x1000
                    + tailBits b * 0x40 + tailBits c) :: ·)
                  <$> decodeFrom (pos + 3) rest
              else .error pos
            else
              match rest with
              | [] => .error pos
              | d :: rest =>
                if 0xF0 ≤ a && a ≤ 0xF4 && isSecondOfFour a b
                    && isTail c && isTail d then
                  (Char.ofNat ((a.toNat - 0xF0) * 0x40000
                      + tailBits b * 0x1000 + tailBits c * 0x40
                      + tailBits d) :: ·)
                    <$> decodeFrom (pos + 4) rest
                else .error pos

/-- The characters of a list of bytes, or the number of bytes before the
first bad sequence. -/
def decode (bs : List UInt8) : Except Nat (List Char) := decodeFrom 0 bs

end ApiMount.Utf8
