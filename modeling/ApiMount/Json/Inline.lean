/-
Reading JSON that is written inside a setting. The grammar is the one
of documents, but arrays and objects may be nested far more deeply,
surrogates need not be paired, so that the values are loose ones, and
faults are reported differently: by characters and not by bytes, a value
at its first character, a string at its opening quote, a bad escape at
its backslash. Nesting that is too deep is a fault of another kind: it
has no place, and ends more than the reading of one setting.

A reader takes the characters that are left and gives a value with the
characters after it, or a fault. How many arrays and objects may still
be opened is the measure of the recursion. The number of characters in
the text bounds how many parts a value has, so it serves as fuel for the
loop over them.
-/
import ApiMount.Json.Loose
import ApiMount.Text.Basic
import ApiMount.Decimal.Double

namespace ApiMount.Json.Inline

open Text

-- ============================================================== faults

/-- The values that have parts. -/
inductive Container where
  | array
  | object
  deriving DecidableEq, Repr

/-- What messages call a value with parts. -/
def Container.name : Container → String
  | .array => "array"
  | .object => "object"

/-- The ways in which a setting fails to be JSON. -/
inductive Fault where
  | valueExpected
  | commaExpected
  | colonExpected
  | keyExpected
  | stringUnfinished
  | controlCharacter
  | badEscape
  | badUnicodeEscape
  | textAfterEnd
  /-- An integer with this many digits. -/
  | integerTooLong (digits : Nat)
  /-- An array or object inside too many others. -/
  | tooDeep (container : Container)
  deriving DecidableEq, Repr

/-- A fault with the number of characters from where it is reported to
the end of the text. -/
structure FaultAt where
  fault : Fault
  left : Nat
  deriving DecidableEq, Repr

/-- How many arrays and objects a value may open inside each other. -/
def nestingLimit : Nat := 984

/-- The words for an array or object that lies too deep. -/
def Container.tooDeepMessage (c : Container) : String :=
  "maximum recursion depth exceeded while decoding a JSON " ++ c.name
    ++ " from a unicode string"

/-- The words for a fault. -/
def Fault.message : Fault → String
  | .valueExpected => "Expecting value"
  | .commaExpected => "Expecting ',' delimiter"
  | .colonExpected => "Expecting ':' delimiter"
  | .keyExpected => "Expecting property name enclosed in double quotes"
  | .stringUnfinished => "Unterminated string starting at"
  | .controlCharacter => "Invalid control character at"
  | .badEscape => "Invalid \\escape"
  | .badUnicodeEscape => "Invalid \\uXXXX escape"
  | .textAfterEnd => "Extra data"
  | .integerTooLong digits =>
    "Exceeds the limit (" ++ toString digitLimit
      ++ " digits) for integer string conversion: value has "
      ++ toString digits
      ++ " digits; use sys.set_int_max_str_digits() to increase the limit"
  | .tooDeep container => container.tooDeepMessage

/-- Where a character with the given index stands: line and column, both
as people count them, and the index. -/
def place (text : List Char) (index : Nat) : String :=
  let before := text.take index
  let line := 1 + before.count '\n'
  let column := 1 + (before.reverse.takeWhile (· != '\n')).length
  "line " ++ toString line ++ " column " ++ toString column
    ++ " (char " ++ toString index ++ ")"

/-- The words for a fault in a text. What is too long or too deep is
reported without a place. -/
def FaultAt.message (f : FaultAt) (text : List Char) : String :=
  match f.fault with
  | .integerTooLong _ | .tooDeep _ => f.fault.message
  | _ => f.fault.message ++ ": " ++ place text (text.length - f.left)

/-- A result with the characters after it. -/
abbrev Read (α : Type) := α × List Char

/-- A result, or a fault. -/
abbrev Outcome (α : Type) := Except FaultAt α

/-- A fault at the first of the characters that are left. -/
def faultAt {α : Type} (fault : Fault) (left : List Char) : Outcome α :=
  .error ⟨fault, left.length⟩

/-- Whether a character may stand between tokens. -/
def isGap (c : Char) : Bool :=
  c == ' ' || c == '\t' || c == '\n' || c == '\r'

/-- Leaves out the characters between tokens. -/
def skipGap (s : List Char) : List Char := s.dropWhile isGap

-- ============================================================= strings

/-- The sixteen bits that four hexadecimal digits spell. -/
def quad? (a b c d : Char) : Option Nat := do
  return ((((← hexValue? a) * 16 + (← hexValue? b)) * 16
    + (← hexValue? c)) * 16 + (← hexValue? d))

/-- Whether sixteen bits are the first half of a surrogate pair. -/
def opensPair (n : Nat) : Bool := 0xD800 ≤ n && n ≤ 0xDBFF

/-- Whether sixteen bits are the second half of a surrogate pair. -/
def closesPair (n : Nat) : Bool := 0xDC00 ≤ n && n ≤ 0xDFFF

/-- The character of a surrogate pair. -/
def joined (high low : Nat) : LooseChar :=
  .char (Char.ofNat
    ((high - 0xD800) * 0x400 + (low - 0xDC00) + 0x10000))

/-- The character that an escape of one letter stands for. -/
def letterEscape? (c : Char) : Option Char :=
  if c = '"' || c = '\\' || c = '/' then some c
  else if c = 'b' then some '\x08'
  else if c = 'f' then some '\x0c'
  else if c = 'n' then some '\n'
  else if c = 'r' then some '\r'
  else if c = 't' then some '\t'
  else none

/-- The text of a string up to its closing quote, escapes resolved;
`whole` is the text from the opening quote on. A numbered escape must
not be the last of the text. -/
def stringText (whole : List Char) :
    List Char → Outcome (Read LooseText)
  | [] => faultAt .stringUnfinished whole
  | c :: rest =>
    if c = '"' then .ok ([], rest)
    else if c.toNat < 0x20 then faultAt .controlCharacter (c :: rest)
    else if c ≠ '\\' then do
      let (cs, left) ← stringText whole rest
      return (.char c :: cs, left)
    else
      match rest with
      | [] => faultAt .stringUnfinished whole
      | e :: rest =>
        match letterEscape? e with
        | some d => do
          let (cs, left) ← stringText whole rest
          return (.char d :: cs, left)
        | none =>
          if e ≠ 'u' then faultAt .badEscape (c :: e :: rest)
          else
            match rest with
            | h₁ :: h₂ :: h₃ :: h₄ :: rest =>
              if rest.isEmpty then
                faultAt .badUnicodeEscape
                  (e :: h₁ :: h₂ :: h₃ :: h₄ :: rest)
              else
                match quad? h₁ h₂ h₃ h₄ with
                | none => faultAt .badUnicodeEscape
                    (e :: h₁ :: h₂ :: h₃ :: h₄ :: rest)
                | some n =>
                  match rest with
                  | b :: u :: l₁ :: l₂ :: l₃ :: l₄ :: more =>
                    if opensPair n && b == '\\' && u == 'u'
                        && !more.isEmpty then
                      match quad? l₁ l₂ l₃ l₄ with
                      | none => faultAt .badUnicodeEscape
                          (u :: l₁ :: l₂ :: l₃ :: l₄ :: more)
                      | some m =>
                        if closesPair m then do
                          let (cs, left) ← stringText whole more
                          return (joined n m :: cs, left)
                        else do
                          let (cs, left) ← stringText whole
                            (b :: u :: l₁ :: l₂ :: l₃ :: l₄ :: more)
                          return (LooseChar.ofCode n :: cs, left)
                    else do
                      let (cs, left) ← stringText whole
                        (b :: u :: l₁ :: l₂ :: l₃ :: l₄ :: more)
                      return (LooseChar.ofCode n :: cs, left)
                  | short => do
                    let (cs, left) ← stringText whole short
                    return (LooseChar.ofCode n :: cs, left)
            | _ => faultAt .badUnicodeEscape (e :: rest)

/-- Reads a string after its opening quote. -/
def string (rest : List Char) : Outcome (Read LooseText) :=
  stringText ('"' :: rest) rest

-- ============================================================= numbers

/-- The number that digits spell. -/
def natOfDigits (ds : List Char) : Nat :=
  ds.foldl (fun n d => 10 * n + (d.toNat - 0x30)) 0

/-- The digits before the point: a zero alone, or digits that do not
begin with one; none if there is no number. -/
def wholePart (s : List Char) : Read (List Char) :=
  match s with
  | '0' :: rest => (['0'], rest)
  | _ => (s.takeWhile Char.isDigit, s.dropWhile Char.isDigit)

/-- The digits after a point, if a point and a digit are there. -/
def fractionPart (s : List Char) : Read (Option (List Char)) :=
  match s with
  | '.' :: rest =>
    let ds := rest.takeWhile Char.isDigit
    if ds.isEmpty then (none, s)
    else (some ds, rest.dropWhile Char.isDigit)
  | _ => (none, s)

/-- The sign of an exponent, and what follows it. -/
def exponentSign : List Char → Read Bool
  | '-' :: rest => (true, rest)
  | '+' :: rest => (false, rest)
  | s => (false, s)

/-- The exponent, if there is one with a digit. -/
def exponentPart (s : List Char) : Read (Option Int) :=
  match s with
  | e :: rest =>
    if e = 'e' || e = 'E' then
      let (negative, digits) := exponentSign rest
      let ds := digits.takeWhile Char.isDigit
      let n : Int := natOfDigits ds
      if ds.isEmpty then (none, s)
      else
        (some (if negative then -n else n), digits.dropWhile Char.isDigit)
    else (none, s)
  | [] => (none, s)

/-- Reads a number after its sign; `all` is the text from the sign on,
where a missing number is reported. What follows the longest number is
left for the caller, even a point or a further digit. -/
def unsignedNumber (negative : Bool) (all s : List Char) :
    Outcome (Read Loose) :=
  let (whole, s₁) := wholePart s
  if whole.isEmpty then faultAt .valueExpected all
  else
    let (fraction, s₂) := fractionPart s₁
    let (exponent, s₃) := exponentPart s₂
    match fraction, exponent with
    | none, none =>
      if digitLimit < whole.length then
        faultAt (.integerTooLong whole.length) all
      else
        let n : Int := natOfDigits whole
        .ok (.int (if negative then -n else n), s₃)
    | _, _ =>
      let places := fraction.getD []
      .ok (.float (Decimal.nearest negative (natOfDigits (whole ++ places))
        (exponent.getD 0 - places.length)), s₃)

/-- The words, and the values that they stand for. -/
def words : List (String × Loose) := [
  ("null", .null), ("true", .bool true), ("false", .bool false),
  ("NaN", .float (0.0 / 0.0)), ("Infinity", .float (1.0 / 0.0)),
  ("-Infinity", .float (-1.0 / 0.0))]

/-- Takes a word from the front of a text. -/
def dropWord : List Char → List Char → Option (List Char)
  | [], s => some s
  | _ :: _, [] => none
  | w :: ws, c :: s => if c = w then dropWord ws s else none

/-- Reads a word or a number. -/
def scalar (s : List Char) : Outcome (Read Loose) :=
  let word? := words.findSome? fun (word, v) =>
    (dropWord word.toList s).map fun left => (v, left)
  match word? with
  | some read => .ok read
  | none =>
    match s with
    | '-' :: rest => unsignedNumber true s rest
    | _ => unsignedNumber false s s

-- ============================================================== values

/-- Reads the items of an array from the first one on, with a reader of
one item. -/
def items (item : List Char → Outcome (Read Loose)) :
    (turns : Nat) → List Char → Outcome (Read (List Loose))
  | 0, s => faultAt .valueExpected s
  | turns + 1, s => do
    let (v, left) ← item s
    match skipGap left with
    | ']' :: rest => return ([v], rest)
    | ',' :: rest => do
      let (vs, after) ← items item turns (skipGap rest)
      return (v :: vs, after)
    | other => faultAt .commaExpected other

/-- Reads the members of an object from the first key on, with a reader
of one value. -/
def members (item : List Char → Outcome (Read Loose)) :
    (turns : Nat) → List Char → Outcome (Read (List (LooseText × Loose)))
  | 0, s => faultAt .keyExpected s
  | turns + 1, s =>
    match s with
    | '"' :: rest => do
      let (key, left) ← string rest
      match skipGap left with
      | ':' :: rest => do
        let (v, left) ← item (skipGap rest)
        match skipGap left with
        | '\x7d' :: rest => return ([(key, v)], rest)
        | ',' :: rest => do
          let (ms, after) ← members item turns (skipGap rest)
          return ((key, v) :: ms, after)
        | other => faultAt .commaExpected other
      | other => faultAt .colonExpected other
    | other => faultAt .keyExpected other

/-- The array or object that opens here, and what follows its bracket. -/
def opened? : List Char → Option (Read Container)
  | '[' :: rest => some (.array, rest)
  | '\x7b' :: rest => some (.object, rest)
  | _ => none

/-- Reads an array or object after its bracket, with a reader of its
parts. -/
def contents (part : List Char → Outcome (Read Loose)) (turns : Nat) :
    Read Container → Outcome (Read Loose)
  | (.array, rest) =>
    match skipGap rest with
    | ']' :: after => .ok (.arr [], after)
    | first => do
      let (vs, left) ← items part turns first
      return (.arr vs, left)
  | (.object, rest) =>
    match skipGap rest with
    | '\x7d' :: after => .ok (.obj [], after)
    | first => do
      let (ms, left) ← members part turns first
      return (.obj ms, left)

/-- Reads a value without parts. -/
def atom (s : List Char) : Outcome (Read Loose) :=
  match s with
  | '"' :: rest => do
    let (text, left) ← string rest
    return (.str text, left)
  | other => scalar other

/-- Reads a value that may open the given number of arrays and objects
inside each other. -/
def value (turns : Nat) :
    (levels : Nat) → List Char → Outcome (Read Loose)
  | 0, s =>
    match opened? s with
    | some (container, _) => faultAt (.tooDeep container) s
    | none => atom s
  | levels + 1, s =>
    match opened? s with
    | some inside => contents (value turns levels) turns inside
    | none => atom s

/-- Reads a whole setting: one value, with gaps around it. -/
def read (text : List Char) : Outcome Loose := do
  let (v, left) ← value (text.length + 1) nestingLimit (skipGap text)
  match skipGap left with
  | [] => return v
  | other => faultAt .textAfterEnd other

end ApiMount.Json.Inline
