/-
Conversions in the message of a record. A message may hold places for
its arguments: a percent sign, then perhaps a key in parentheses, flags,
a width, a precision and a size letter, and last the letter of the
conversion. A width or a precision may be a star, which takes its value
from the arguments.

`Conversion.read` reads one conversion, from the character after its
percent sign, and gives it with what is left of the message and of the
arguments.
-/
import ApiMount.Json.Loose

namespace ApiMount.Log

-- ============================================================== faults

/-- The ways in which a message and its arguments fail to fit. -/
inductive FormatFault where
  | tooFewArguments
  | tooManyArguments
  | tableExpected
  /-- An array has no members to be asked for by key. -/
  | indexExpected
  | starNotInteger
  | realExpected (letter : Char) (kind : String)
  | integerExpected (letter : Char) (kind : String)
  | floatExpected (kind : String)
  | charExpected
  | unknownKey (key : String)
  | unfinished
  | unfinishedKey
  | unknownLetter (letter : Char) (index : Nat)
  | widthTooBig
  | precisionTooBig
  | notANumber
  | starWidthTooBig
  | starPrecisionTooBig
  | infiniteInteger
  | integerTooLarge
  | charOutOfRange
  | precisionTooLarge
  /-- A field that no memory can hold. -/
  | fieldTooLarge
  /-- A value that cannot be spelled out. -/
  | overrun (o : Json.Overrun)
  deriving DecidableEq, Repr

/-- The kinds of faults that callers tell apart. -/
inductive FormatFault.Kind where
  | wrongType
  | badValue
  | unknownKey
  | outOfRange
  | noMemory
  | tooDeep
  deriving DecidableEq, Repr

/-- The kind of a fault. -/
def FormatFault.kind : FormatFault → FormatFault.Kind
  | .tooFewArguments | .tooManyArguments | .tableExpected
  | .indexExpected | .starNotInteger | .realExpected _ _
  | .integerExpected _ _ | .floatExpected _ | .charExpected => .wrongType
  | .unknownKey _ => .unknownKey
  | .unfinished | .unfinishedKey | .unknownLetter _ _ | .widthTooBig
  | .precisionTooBig | .notANumber | .overrun .tooLong => .badValue
  | .starWidthTooBig | .starPrecisionTooBig | .infiniteInteger
  | .integerTooLarge | .charOutOfRange | .precisionTooLarge => .outOfRange
  | .fieldTooLarge => .noMemory
  | .overrun .tooDeep => .tooDeep

/-- What is under way while a value is spelled out. -/
def spelling : String := "getting the repr of an object"

/-- The code point of a character in hexadecimal, without zeros in
front. -/
def hexCode (c : Char) : String :=
  String.ofList (Nat.toDigits 16 c.toNat)

/-- The words for a fault. -/
def FormatFault.message : FormatFault → String
  | .tooFewArguments => "not enough arguments for format string"
  | .tooManyArguments =>
    "not all arguments converted during string formatting"
  | .tableExpected => "format requires a mapping"
  | .indexExpected => "list indices must be integers or slices, not str"
  | .starNotInteger => "* wants int"
  | .realExpected letter kind =>
    "%" ++ letter.toString ++ " format: a real number is required, not "
      ++ kind
  | .integerExpected letter kind =>
    "%" ++ letter.toString ++ " format: an integer is required, not "
      ++ kind
  | .floatExpected kind => "must be real number, not " ++ kind
  | .charExpected => "%c requires int or char"
  | .unknownKey key => String.ofList (Json.literalText key.toList)
  | .unfinished => "incomplete format"
  | .unfinishedKey => "incomplete format key"
  | .unknownLetter letter index =>
    let shown :=
      if 31 ≤ letter.toNat && letter.toNat ≤ 126 then letter else '?'
    "unsupported format character '" ++ shown.toString ++ "' (0x"
      ++ hexCode letter ++ ") at index " ++ toString index
  | .widthTooBig => "width too big"
  | .precisionTooBig => "precision too big"
  | .notANumber => "cannot convert float NaN to integer"
  | .starWidthTooBig => "Python int too large to convert to C ssize_t"
  | .starPrecisionTooBig => "Python int too large to convert to C int"
  | .infiniteInteger => "cannot convert float infinity to integer"
  | .integerTooLarge => "int too large to convert to float"
  | .charOutOfRange => "%c arg not in range(0x110000)"
  | .precisionTooLarge => "precision too large"
  | .fieldTooLarge => ""
  | .overrun o => o.message spelling

/-- A result, or a fault. -/
abbrev Formatted := Except FormatFault

-- =========================================================== arguments

/-- What a key in a message can be asked of. -/
inductive Keyed where
  | nothing
  | table (members : Table Json)
  /-- An array, which has no keys. -/
  | array
  deriving BEq

/-- The arguments of a message that are still to be used. A single table
with members can also be asked for its members by key. -/
structure Arguments where
  keyed : Keyed
  pending : List Json

/-- The arguments that a list of values gives. -/
def Arguments.ofList (values : List Json) : Arguments :=
  match values with
  | [.obj (member :: members)] => ⟨.table (member :: members), values⟩
  | _ => ⟨.nothing, values⟩

/-- The arguments that one value gives, unless it counts as nothing. -/
def Arguments.ofValue? (v : Json) : Option Arguments :=
  if v.isNothing then none
  else
    match v with
    | .obj members => some ⟨.table members, [v]⟩
    | .arr _ => some ⟨.array, [v]⟩
    | _ => some ⟨.nothing, [v]⟩

/-- Whether a key can be asked for. Then no argument need be used. -/
def Arguments.takesKeys (a : Arguments) : Bool :=
  match a.keyed with
  | .nothing => false
  | _ => true

/-- Takes the next argument. -/
def Arguments.next (a : Arguments) : Formatted (Json × Arguments) :=
  match a.pending with
  | [] => .error .tooFewArguments
  | v :: rest => .ok (v, { a with pending := rest })

/-- Makes the value under a key the one that is pending. -/
def Arguments.select (a : Arguments) (key : String) :
    Formatted Arguments :=
  match a.keyed with
  | .nothing => .error .tableExpected
  | .array => .error .indexExpected
  | .table members =>
    match members.get? key with
    | some v => .ok { a with pending := [v] }
    | none => .error (.unknownKey key)

-- ========================================================= conversions

/-- How a converted value is laid out. -/
structure Flags where
  left : Bool
  plus : Bool
  blank : Bool
  alternate : Bool
  zeros : Bool
  deriving DecidableEq, Repr

/-- A conversion. -/
structure Conversion where
  flags : Flags
  width : Nat
  precision : Option Nat
  letter : Char
  deriving Repr

/-- Splits a text after the parenthesis that closes `depth` open ones:
the key before it, and what follows. -/
def splitKey : (depth : Nat) → List Char →
    Option (List Char × List Char)
  | _, [] => none
  | depth, c :: rest =>
    if c = ')' && depth ≤ 1 then some ([], rest)
    else
      let depth :=
        if c = ')' then depth - 1 else if c = '(' then depth + 1 else depth
      (splitKey depth rest).map fun (key, after) => (c :: key, after)

/-- Reads a key in parentheses, if there is one, and selects its
value. -/
def readKey (s : List Char) (a : Arguments) :
    Formatted (List Char × Arguments) :=
  match s with
  | '(' :: rest =>
    if !a.takesKeys then .error .tableExpected
    else
      match splitKey 1 rest with
      | none => .error .unfinishedKey
      | some (key, after) =>
        (a.select (String.ofList key)).map fun a => (after, a)
  | _ => .ok (s, a)

/-- Reads flags, in any order and number. -/
def readFlags (f : Flags) : List Char → Flags × List Char
  | '-' :: rest => readFlags { f with left := true } rest
  | '+' :: rest => readFlags { f with plus := true } rest
  | ' ' :: rest => readFlags { f with blank := true } rest
  | '#' :: rest => readFlags { f with alternate := true } rest
  | '0' :: rest => readFlags { f with zeros := true } rest
  | s => (f, s)

/-- A truth value counts as an integer. -/
def integer? : Json → Option Int
  | .int n => some n
  | .bool b => some b.toInt
  | _ => none

/-- Reads a number: digits, or a star that takes it from the arguments.
None if there is neither. No number exceeds `limit`, and one from the
arguments is at least `-limit - 1`. -/
def readNumber (limit : Nat) (tooBig starTooBig : FormatFault)
    (s : List Char) (a : Arguments) :
    Formatted (Option Int × List Char × Arguments) :=
  match s with
  | '*' :: rest => do
    let (v, a) ← a.next
    match integer? v with
    | none => .error .starNotInteger
    | some n =>
      if -(limit : Int) - 1 ≤ n && n ≤ limit then
        return (some n, rest, a)
      else .error starTooBig
  | _ =>
    match s.takeWhile Char.isDigit with
    | [] => .ok (none, s, a)
    | digits =>
      let n := (String.ofList digits).toNat?.getD 0
      if n ≤ limit then
        .ok (some (n : Int), s.dropWhile Char.isDigit, a)
      else .error tooBig

/-- The largest width. -/
def widthLimit : Nat := 0x7FFFFFFFFFFFFFFF

/-- The largest precision. -/
def precisionLimit : Nat := 0x7FFFFFFF

/-- Reads a precision after its point, if there is one; it is nothing
but a point when no number follows. -/
def readPrecision (s : List Char) (a : Arguments) :
    Formatted (Option Nat × List Char × Arguments) :=
  match s with
  | '.' :: rest => do
    let (n?, after, a) ← readNumber precisionLimit .precisionTooBig
      .starPrecisionTooBig rest a
    return (some (n?.getD 0).toNat, after, a)
  | _ => .ok (none, s, a)

/-- Leaves out a size letter. -/
def skipSize : List Char → List Char
  | 'h' :: rest => rest
  | 'l' :: rest => rest
  | 'L' :: rest => rest
  | s => s

/-- Reads a conversion. A negative width from the arguments means the
flag for the left; the least one has no positive counterpart and counts
as none. -/
def Conversion.read (s : List Char) (a : Arguments) :
    Formatted (Conversion × List Char × Arguments) := do
  let (s, a) ← readKey s a
  let (flags, s) := readFlags ⟨false, false, false, false, false⟩ s
  let (width?, s, a) ←
    readNumber widthLimit .widthTooBig .starWidthTooBig s a
  let width := width?.getD 0
  let (precision, s, a) ← readPrecision s a
  match skipSize s with
  | [] => .error .unfinished
  | letter :: rest =>
    let flags := { flags with left := flags.left || width < 0 }
    let size := if width.natAbs ≤ widthLimit then width.natAbs else 0
    return (⟨flags, size, precision, letter⟩, rest, a)

end ApiMount.Log
