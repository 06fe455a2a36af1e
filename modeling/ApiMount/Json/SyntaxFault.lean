/-
What can be wrong with a JSON text, and where. A fault counts the bytes
from the offending one to the end of the text; a `Position` turns that
count into a line and a column. Columns count bytes: the offending byte
is part of its column, a line break belongs to the line that it begins,
and past the end of the text the column is the length of the last line.
-/

namespace ApiMount.Json

/-- The ways in which a text fails to be JSON. -/
inductive SyntaxFault where
  | endInValue
  | endInList
  | endInObject
  | endInString
  | valueExpected
  | wordExpected
  | badNumber
  | numberTooLong
  | listEndExpected
  | objectEndExpected
  | trailingComma
  | keyExpected
  | colonExpected
  | controlCharacter
  | badEscape
  | unpairedSurrogate
  | cutSurrogatePair
  | badUtf8
  | tooDeep
  | textAfterEnd
  deriving DecidableEq, Repr

/-- The words for a fault. -/
def SyntaxFault.message : SyntaxFault → String
  | .endInValue => "EOF while parsing a value"
  | .endInList => "EOF while parsing a list"
  | .endInObject => "EOF while parsing an object"
  | .endInString => "EOF while parsing a string"
  | .valueExpected => "expected value"
  | .wordExpected => "expected ident"
  | .badNumber => "invalid number"
  | .numberTooLong => "number out of range"
  | .listEndExpected => "expected \x60,\x60 or \x60]\x60"
  | .objectEndExpected => "expected \x60,\x60 or \x60\x7d\x60"
  | .trailingComma => "trailing comma"
  | .keyExpected => "key must be a string"
  | .colonExpected => "expected \x60:\x60"
  | .controlCharacter =>
    "control character (\\u0000-\\u001F) found while parsing a string"
  | .badEscape => "invalid escape"
  | .unpairedSurrogate => "lone leading surrogate in hex escape"
  | .cutSurrogatePair => "unexpected end of hex escape"
  | .badUtf8 => "invalid unicode code point"
  | .tooDeep => "recursion limit exceeded"
  | .textAfterEnd => "trailing characters"

/-- A fault with the number of bytes from the offending one to the end
of the text. -/
structure FaultAt where
  fault : SyntaxFault
  left : Nat
  deriving DecidableEq, Repr

/-- A line and a column, both as people count them. -/
structure Position where
  line : Nat
  column : Nat
  deriving DecidableEq, Repr

/-- The position of the byte with the given index, or of the end. -/
def Position.ofIndex (bytes : List UInt8) (index : Nat) : Position :=
  let seen := bytes.take (index + 1)
  { line := 1 + seen.count 10
    column := (seen.reverse.takeWhile (· != 10)).length }

/-- The words for a fault in a text, with its position. -/
def FaultAt.message (f : FaultAt) (bytes : List UInt8) : String :=
  let p := Position.ofIndex bytes (bytes.length - f.left)
  f.fault.message ++ " at line " ++ toString p.line ++ " column "
    ++ toString p.column

end ApiMount.Json
