/-
Writing JSON. Two forms are written: the compact one of documents and
the spaced one of log lines. They share the quoting of strings, which
escapes the quote, the backslash and the characters below U+0020 and
nothing else, and differ in separators and in the text of doubles. A
`Form` records the difference.

The printer works on lists of characters, so that it can be set against
the reader.
-/
import ApiMount.Json.Basic
import ApiMount.Text.Basic
import ApiMount.Decimal.Layout

namespace ApiMount.Json

open Text

-- ============================================================= strings

/-- A character as it stands inside a quoted string. -/
def escaped (c : Char) : List Char :=
  if c = '"' then ['\\', '"']
  else if c = '\\' then ['\\', '\\']
  else if c = '\n' then ['\\', 'n']
  else if c = '\r' then ['\\', 'r']
  else if c = '\t' then ['\\', 't']
  else if c.toNat = 0x08 then ['\\', 'b']
  else if c.toNat = 0x0C then ['\\', 'f']
  else if c.toNat < 0x20 then '\\' :: 'u' :: hex 4 c.toNat
  else [c]

/-- A text in quotes. -/
def quoted (s : String) : List Char :=
  '"' :: s.toList.flatMap escaped ++ ['"']

-- ============================================================= numbers

/-- A whole number in digits. -/
def digits (n : Nat) : List Char := Nat.toDigits 10 n

/-- An integer in digits, a minus in front of a negative one. -/
def integer : Int → List Char
  | .ofNat n => digits n
  | .negSucc n => '-' :: digits (n + 1)

/-- The most digits that an integer may have in a text. -/
def digitLimit : Nat := 4300

/-- Documents write doubles positionally from `0.00001` to below
`1e16`; what is not a number is `null`. -/
def documentFloats : Decimal.Layout :=
  { least := -5, most := 15, exponentWidth := 1
    nan := "null", infinity := "null", minusInfinity := "null" }

/-- Log lines write doubles positionally from `0.0001` to below `1e16`
and name what is not a number. -/
def logFloats : Decimal.Layout :=
  { least := -4, most := 15, exponentWidth := 2
    nan := "NaN", infinity := "Infinity", minusInfinity := "-Infinity" }

-- =============================================================== forms

/-- What one written form decides. -/
structure Form where
  comma : List Char
  colon : List Char
  floats : Decimal.Layout

/-- The form of documents: no blanks. -/
def compactForm : Form := ⟨[','], [':'], documentFloats⟩

/-- The form of log lines: a blank after each separator. -/
def spacedForm : Form := ⟨[',', ' '], [':', ' '], logFloats⟩

mutual

/-- A value in a form. -/
def write (form : Form) : Json → List Char
  | .null => "null".toList
  | .bool true => "true".toList
  | .bool false => "false".toList
  | .int n => integer n
  | .float x => (form.floats.text x).toList
  | .str s => quoted s
  | .arr items => '[' :: writeItems form items ++ [']']
  | .obj members => '\x7b' :: writeMembers form members ++ ['\x7d']

/-- Items with commas between them. -/
def writeItems (form : Form) : List Json → List Char
  | [] => []
  | [item] => item.write form
  | item :: rest => item.write form ++ form.comma ++ writeItems form rest

/-- Members with commas between them. -/
def writeMembers (form : Form) : List (String × Json) → List Char
  | [] => []
  | [(key, value)] => quoted key ++ form.colon ++ value.write form
  | (key, value) :: rest =>
    quoted key ++ form.colon ++ value.write form ++ form.comma
      ++ writeMembers form rest

end

/-- The text of a value in the form of documents. -/
def compact (v : Json) : String := String.ofList (v.write compactForm)

end ApiMount.Json
