/-
Reading JSON. A reader takes the bytes that are left and gives a value
with the bytes after it, or a fault. The grammar is that of JSON with
three words more: `NaN`, `Infinity` and `-Infinity`. Two limits hold: a
value inside 200 arrays and objects cannot itself have a content, and
the whole part of a number has at most 4300 digits.

Nesting is the measure of the recursion. `value n` reads a value that
may hold `n` further levels, from a reader of its parts that may hold
one level less; `value 0` reads whatever has no parts. Within one array
or object the parts follow each other in a loop, for which the number of
bytes in the text is more than enough turns.
-/
import ApiMount.Json.Basic
import ApiMount.Json.SyntaxFault
import ApiMount.Text.Basic
import ApiMount.Text.Utf8
import ApiMount.Decimal.Double

namespace ApiMount.Json.Reader

open Text

/-- A result with the bytes after it. -/
abbrev Read (α : Type) := α × List UInt8

/-- A result, or a fault. -/
abbrev Outcome (α : Type) := Except FaultAt α

/-- A fault at the first of the bytes that are left. -/
def faultAt {α : Type} (fault : SyntaxFault) (left : List UInt8) :
    Outcome α :=
  .error ⟨fault, left.length⟩

/-- The byte of an ASCII character. -/
abbrev octet (c : Char) : UInt8 := c.toUInt8

/-- The blanks between tokens: space, tab and the two line breaks. -/
def isBlankByte (b : UInt8) : Bool :=
  b == 0x20 || b == 0x0A || b == 0x0D || b == 0x09

/-- Leaves out blanks. -/
def skipBlanks (s : List UInt8) : List UInt8 := s.dropWhile isBlankByte

/-- Whether a byte is a decimal digit. -/
def isDigit (b : UInt8) : Bool := 0x30 ≤ b && b ≤ 0x39

/-- The number that digits spell. -/
def natOfDigits (ds : List UInt8) : Nat :=
  ds.foldl (fun n d => 10 * n + (d.toNat - 0x30)) 0

-- =============================================================== words

/-- Reads the rest of a word: the fault is at the first byte that
differs. -/
def word : List UInt8 → List UInt8 → Outcome (List UInt8)
  | [], s => .ok s
  | _ :: _, [] => faultAt .endInValue []
  | w :: ws, b :: s =>
    if b = w then word ws s else faultAt .wordExpected (b :: s)

-- ============================================================= strings

/-- The value of a hexadecimal digit. -/
def hexOctet? (b : UInt8) : Option Nat :=
  hexValue? (Char.ofNat b.toNat)

/-- The sixteen bits that four hexadecimal digits spell; the fault is at
the first byte that is none. -/
def hexQuad (a b c d : UInt8) (rest : List UInt8) : Outcome Nat :=
  match hexOctet? a, hexOctet? b, hexOctet? c, hexOctet? d with
  | some x, some y, some z, some w =>
    .ok (((x * 16 + y) * 16 + z) * 16 + w)
  | none, _, _, _ => faultAt .badEscape (a :: b :: c :: d :: rest)
  | _, none, _, _ => faultAt .badEscape (b :: c :: d :: rest)
  | _, _, none, _ => faultAt .badEscape (c :: d :: rest)
  | _, _, _, none => faultAt .badEscape (d :: rest)

/-- Whether sixteen bits are the first half of a surrogate pair. -/
def isHighSurrogate (n : Nat) : Bool := 0xD800 ≤ n && n ≤ 0xDBFF

/-- Whether sixteen bits are the second half of a surrogate pair. -/
def isLowSurrogate (n : Nat) : Bool := 0xDC00 ≤ n && n ≤ 0xDFFF

/-- The character of a surrogate pair. -/
def pairChar (high low : Nat) : Char :=
  Char.ofNat ((high - 0xD800) * 0x400 + (low - 0xDC00) + 0x10000)

/-- The byte that an escape of one letter stands for. -/
def letterEscape? (b : UInt8) : Option UInt8 :=
  if b = octet '"' || b = octet '\\' || b = octet '/' then some b
  else if b = octet 'b' then some 0x08
  else if b = octet 'f' then some 0x0C
  else if b = octet 'n' then some 0x0A
  else if b = octet 'r' then some 0x0D
  else if b = octet 't' then some 0x09
  else none

/-- Reads the second half of a surrogate pair, escape and all: the bytes
of the pair's character. -/
def secondHalf (high : Nat) : List UInt8 → Outcome (List UInt8)
  | [] => faultAt .endInString []
  | s :: rest =>
    if s ≠ octet '\\' then faultAt .cutSurrogatePair (s :: rest)
    else
      match rest with
      | [] => faultAt .endInString []
      | u :: rest =>
        if u ≠ octet 'u' then faultAt .cutSurrogatePair (u :: rest)
        else
          match rest with
          | l₁ :: l₂ :: l₃ :: l₄ :: rest => do
            let low ← hexQuad l₁ l₂ l₃ l₄ rest
            if isLowSurrogate low then
              return String.utf8EncodeChar (pairChar high low)
            else faultAt .unpairedSurrogate (l₄ :: rest)
          | _ => faultAt .endInString []

/-- Reads the number of an escape: the bytes of its character, and how
many bytes were read. -/
def numberedEscape : List UInt8 → Outcome (List UInt8 × Nat)
  | h₁ :: h₂ :: h₃ :: h₄ :: rest => do
    let n ← hexQuad h₁ h₂ h₃ h₄ rest
    if isLowSurrogate n then faultAt .unpairedSurrogate (h₄ :: rest)
    else if isHighSurrogate n then
      return (← secondHalf n rest, 10)
    else return (String.utf8EncodeChar (Char.ofNat n), 4)
  | _ => faultAt .endInString []

/-- Reads an escape after its backslash: the bytes that it stands for,
and how many bytes were read. -/
def escape : List UInt8 → Outcome (List UInt8 × Nat)
  | [] => faultAt .endInString []
  | e :: rest =>
    match letterEscape? e with
    | some c => .ok ([c], 1)
    | none =>
      if e ≠ octet 'u' then faultAt .badEscape (e :: rest)
      else do
        let (bs, n) ← numberedEscape rest
        return (bs, n + 1)

/-- The bytes of a string up to its closing quote, escapes resolved. The
first bytes, as many as are given, were read as part of an escape. -/
def stringBytesAfter : (read : Nat) → List UInt8 →
    Outcome (Read (List UInt8))
  | _, [] => faultAt .endInString []
  | read + 1, _ :: rest => stringBytesAfter read rest
  | 0, b :: rest =>
    if b = octet '"' then .ok ([], rest)
    else if b < 0x20 then faultAt .controlCharacter (b :: rest)
    else if b ≠ octet '\\' then do
      let (bs, left) ← stringBytesAfter 0 rest
      return (b :: bs, left)
    else do
      let (cs, n) ← escape rest
      let (bs, left) ← stringBytesAfter n rest
      return (cs ++ bs, left)

/-- The bytes of a string up to its closing quote, escapes resolved. -/
def stringBytes (s : List UInt8) : Outcome (Read (List UInt8)) :=
  stringBytesAfter 0 s

/-- Reads a string after its opening quote. Its encoding is checked when
it is complete: a bad sequence is placed by the bytes, with escapes
resolved, that come before it. -/
def string (s : List UInt8) : Outcome (Read String) := do
  let (bs, rest) ← stringBytes s
  match Utf8.decode bs with
  | .ok cs => return (String.ofList cs, rest)
  | .error n => .error ⟨.badUtf8, s.length - n⟩

-- ============================================================= numbers

/-- The most digits that the whole part of a number may have. -/
def wholeLimit : Nat := 4300

/-- Reads one digit or more. -/
def digitRun (s : List UInt8) : Outcome (Read (List UInt8)) :=
  match s with
  | [] => faultAt .endInValue []
  | b :: _ =>
    if isDigit b then .ok (s.takeWhile isDigit, s.dropWhile isDigit)
    else faultAt .badNumber s

/-- Reads the digits before the point: a zero alone, or digits that do
not begin with one. -/
def wholePart (s : List UInt8) : Outcome (Read (List UInt8)) :=
  match s with
  | [] => faultAt .endInValue []
  | b :: rest =>
    if b = octet '0' then
      match rest with
      | [] => .ok ([b], rest)
      | c :: _ =>
        if isDigit c then faultAt .badNumber rest else .ok ([b], rest)
    else digitRun s

/-- Reads the exponent of a number if there is one; `none` if not. -/
def exponentPart (s : List UInt8) : Outcome (Read (Option Int)) :=
  match s with
  | b :: rest =>
    if b = octet 'e' || b = octet 'E' then do
      let (negative, digits) :=
        match rest with
        | c :: after =>
          if c = octet '-' then (true, after)
          else if c = octet '+' then (false, after)
          else (false, rest)
        | [] => (false, rest)
      let (ds, left) ← digitRun digits
      let n : Int := natOfDigits ds
      return (some (if negative then -n else n), left)
    else .ok (none, s)
  | [] => .ok (none, s)

/-- Reads the digits after a point if there is one; `none` if not. -/
def fractionPart (s : List UInt8) : Outcome (Read (Option (List UInt8))) :=
  match s with
  | b :: rest =>
    if b = octet '.' then do
      let (ds, left) ← digitRun rest
      return (some ds, left)
    else .ok (none, s)
  | [] => .ok (none, s)

/-- Reads a number after its sign. A number with a fraction or an
exponent is a double. A whole part that is too long is reported after the
first digit that it should not have. -/
def unsignedNumber (negative : Bool) (s : List UInt8) :
    Outcome (Read Json) := do
  let (whole, s₁) ← wholePart s
  if wholeLimit < whole.length then
    .error ⟨.numberTooLong, s.length - (wholeLimit + 1)⟩
  else
    let (fraction, s₂) ← fractionPart s₁
    let (exponent, s₃) ← exponentPart s₂
    match fraction, exponent with
    | none, none =>
      let n : Int := natOfDigits whole
      return (.int (if negative then -n else n), s₃)
    | _, _ =>
      let places := fraction.getD []
      return (.float (Decimal.nearest negative
        (natOfDigits (whole ++ places))
        (exponent.getD 0 - places.length)), s₃)

/-- Reads a number, or the word for an infinity after a minus. -/
def number (s : List UInt8) : Outcome (Read Json) :=
  match s with
  | b :: rest =>
    if b = octet '-' then
      match rest with
      | c :: after =>
        if c = octet 'I' then do
          let left ← word (Utf8.bytes "nfinity") after
          return (.float (-1.0 / 0.0), left)
        else unsignedNumber true rest
      | [] => unsignedNumber true rest
    else unsignedNumber false s
  | [] => unsignedNumber false s

-- ============================================================== values

/-- What the first byte of a value announces. -/
inductive Lead where
  | array
  | object
  | string
  | word (rest : String) (value : Json)
  | number
  | nothing

/-- What a byte announces. -/
def lead (b : UInt8) : Lead :=
  if b = octet '[' then .array
  else if b = octet '\x7b' then .object
  else if b = octet '"' then .string
  else if b = octet 't' then .word "rue" (.bool true)
  else if b = octet 'f' then .word "alse" (.bool false)
  else if b = octet 'n' then .word "ull" .null
  else if b = octet 'N' then .word "aN" (.float (0.0 / 0.0))
  else if b = octet 'I' then .word "nfinity" (.float (1.0 / 0.0))
  else if b = octet '-' || isDigit b then .number
  else .nothing

/-- Reads the items of an array from the first one on, with a reader of
one item. -/
def items (item : List UInt8 → Outcome (Read Json)) :
    (turns : Nat) → List UInt8 → Outcome (Read (List Json))
  | 0, s => faultAt .endInList s
  | turns + 1, s => do
    let (v, left) ← item s
    match skipBlanks left with
    | [] => faultAt .endInList []
    | b :: rest =>
      if b = octet ']' then return ([v], rest)
      else if b = octet ',' then
        match skipBlanks rest with
        | [] => faultAt .endInValue []
        | c :: more =>
          if c = octet ']' then faultAt .trailingComma (c :: more)
          else do
            let (vs, after) ← items item turns (c :: more)
            return (v :: vs, after)
      else faultAt .listEndExpected (b :: rest)

/-- Reads a key after its quote and the colon, up to the first byte of
the value. -/
def key (s : List UInt8) : Outcome (Read String) := do
  let (k, left) ← string s
  match skipBlanks left with
  | [] => faultAt .endInObject []
  | b :: rest =>
    if b = octet ':' then
      match skipBlanks rest with
      | [] => faultAt .endInValue []
      | c :: more => return (k, c :: more)
    else faultAt .colonExpected (b :: rest)

/-- Reads the members of an object from after the first key's quote on,
with a reader of one value. -/
def members (item : List UInt8 → Outcome (Read Json)) :
    (turns : Nat) → List UInt8 → Outcome (Read (List (String × Json)))
  | 0, s => faultAt .endInObject s
  | turns + 1, s => do
    let (k, atValue) ← key s
    let (v, left) ← item atValue
    match skipBlanks left with
    | [] => faultAt .endInObject []
    | b :: rest =>
      if b = octet '\x7d' then return ([(k, v)], rest)
      else if b = octet ',' then
        match skipBlanks rest with
        | [] => faultAt .endInValue []
        | c :: more =>
          if c = octet '"' then do
            let (ms, after) ← members item turns more
            return ((k, v) :: ms, after)
          else if c = octet '\x7d' then faultAt .trailingComma (c :: more)
          else faultAt .keyExpected (c :: more)
      else faultAt .objectEndExpected (b :: rest)

/-- Reads a value from its first byte on, with a reader of its parts.
`turns` is at least the number of parts of any array or object. -/
def valueOf (part : List UInt8 → Outcome (Read Json)) (turns : Nat)
    (s : List UInt8) : Outcome (Read Json) :=
  match s with
  | [] => faultAt .endInValue []
  | b :: rest =>
    match lead b with
    | .nothing => faultAt .valueExpected s
    | .number => number s
    | .word letters v => do
      let left ← word (Utf8.bytes letters) rest
      return (v, left)
    | .string => do
      let (text, left) ← string rest
      return (.str text, left)
    | .array =>
      match skipBlanks rest with
      | [] => faultAt .endInList []
      | c :: more =>
        if c = octet ']' then return (.arr [], more)
        else do
          let (vs, left) ← items part turns (c :: more)
          return (.arr vs, left)
    | .object =>
      match skipBlanks rest with
      | [] => faultAt .endInObject []
      | c :: more =>
        if c = octet '\x7d' then return (.obj [], more)
        else if c = octet '"' then do
          let (ms, left) ← members part turns more
          return (.obj ms, left)
        else faultAt .keyExpected (c :: more)

/-- Reads a value that may hold the given number of levels of parts. -/
def value (turns : Nat) : (levels : Nat) → List UInt8 → Outcome (Read Json)
  | 0 => valueOf (fun s => faultAt .tooDeep s) turns
  | levels + 1 => valueOf (value turns levels) turns

/-- How many arrays and objects may lie around a value. -/
def levelLimit : Nat := 200

end Reader

open Reader in
/-- Reads a whole text: one value, with blanks around it. -/
def read (bytes : List UInt8) : Except FaultAt Json := do
  let (v, left) ← value bytes.length levelLimit (skipBlanks bytes)
  match skipBlanks left with
  | [] => return v
  | b :: rest => faultAt .textAfterEnd (b :: rest)

end ApiMount.Json
