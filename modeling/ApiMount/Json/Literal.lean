/-
Values as a report of problems shows them: as literals
with `None`, `True` and `False`, single quotes, and
an escape for every character that cannot be printed. A text goes in
double quotes only if it holds a single quote and no double one.
-/
import ApiMount.Json.Printer
import ApiMount.Text.Printable

namespace ApiMount.Json

open Text

/-- Doubles are written positionally from `0.0001` to below `1e16`. -/
def literalFloats : Decimal.Layout :=
  { least := -4, most := 15, exponentWidth := 2
    nan := "nan", infinity := "inf", minusInfinity := "-inf" }

/-- The quote that a text is put in. -/
def quoteFor (cs : List Char) : Char :=
  if cs.contains '\'' && !cs.contains '"' then '"' else '\''

/-- A numbered escape: two, four or eight digits, as many as the code
point needs. -/
def numbered (n : Nat) : List Char :=
  if n < 0x100 then '\\' :: 'x' :: hex 2 n
  else if n < 0x10000 then '\\' :: 'u' :: hex 4 n
  else '\\' :: 'U' :: hex 8 n

/-- A character inside a literal with the given quote. -/
def literalChar (quote c : Char) : List Char :=
  if c = quote || c = '\\' then ['\\', c]
  else if c = '\n' then ['\\', 'n']
  else if c = '\r' then ['\\', 'r']
  else if c = '\t' then ['\\', 't']
  else if isPrintable c then [c]
  else numbered c.toNat

/-- The literal of a text. -/
def literalText (cs : List Char) : List Char :=
  let quote := quoteFor cs
  quote :: cs.flatMap (literalChar quote) ++ [quote]

/-- The literal of a list of bytes: ASCII shows as itself. -/
def literalBytes (bs : List UInt8) : List Char :=
  let cs := bs.map fun b => Char.ofNat b.toNat
  let quote := quoteFor cs
  let shown (c : Char) : List Char :=
    if c.toNat < 0x7F then literalChar quote c else numbered c.toNat
  'b' :: quote :: cs.flatMap shown ++ [quote]

mutual

/-- The literal of a value whose objects hold every key once. -/
def literal : Json → List Char
  | .null => "None".toList
  | .bool true => "True".toList
  | .bool false => "False".toList
  | .int n => integer n
  | .float x => (literalFloats.text x).toList
  | .str s => literalText s.toList
  | .arr items => '[' :: literalItems items ++ [']']
  | .obj members => '\x7b' :: literalMembers members ++ ['\x7d']

/-- Items with commas between them. -/
def literalItems : List Json → List Char
  | [] => []
  | [item] => item.literal
  | item :: rest => item.literal ++ ',' :: ' ' :: literalItems rest

/-- Members with commas between them. -/
def literalMembers : List (String × Json) → List Char
  | [] => []
  | [(key, value)] => literalText key.toList ++ ':' :: ' ' :: value.literal
  | (key, value) :: rest =>
    literalText key.toList ++ ':' :: ' ' :: value.literal
      ++ ',' :: ' ' :: literalMembers rest

end

/-- What a report calls the kind of a value. -/
def kindName : Json → String
  | .null => "NoneType"
  | .bool _ => "bool"
  | .int _ => "int"
  | .float _ => "float"
  | .str _ => "str"
  | .arr _ => "list"
  | .obj _ => "dict"

/-- The text of a value in a sentence: a string stands as it is, any
other value as its literal. -/
def plain : Json → String
  | .str s => s
  | other => String.ofList other.tidy.literal

end ApiMount.Json
