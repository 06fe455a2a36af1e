/-
The text of a settings file. An entry is a name, perhaps after `export`,
with an equals sign and a value; a name alone is an entry without a
value. A value is quoted, and then it may go over several lines, or it is
the rest of its line without a comment. A line that fits no entry is
left out up to its end. A byte-order mark at the front of the text is no
part of it.

`entry` reads one entry and gives the text after it; `assignments` reads
all of them. References such as `${NAME}` in values are not filled in
here.
-/
import ApiMount.Text.Blank

namespace ApiMount.SettingsFile

open Text

-- =============================================================== lines

/-- The text with every line break written as one line feed. -/
def unifyBreaks : List Char → List Char
  | [] => []
  | '\r' :: rest =>
    match rest with
    | '\n' :: _ => unifyBreaks rest
    | _ => '\n' :: unifyBreaks rest
  | c :: rest => c :: unifyBreaks rest

/-- Whether a character is a blank within a line. -/
def isSpace (c : Char) : Bool := isBlank c && c != '\n' && c != '\r'

/-- Leaves out blanks up to the end of the line. -/
def skipSpace (s : List Char) : List Char := s.dropWhile isSpace

/-- What comes after the current line. -/
def nextLine (s : List Char) : List Char :=
  (s.dropWhile (· != '\n')).drop 1

-- ============================================================== quotes

/-- Splits a text at its closing quote. Whatever follows a backslash
does not close. -/
def splitAtQuote (quote : Char) :
    List Char → Option (List Char × List Char)
  | [] => none
  | '\\' :: c :: rest =>
    (splitAtQuote quote rest).map fun (body, after) =>
      ('\\' :: c :: body, after)
  | c :: rest =>
    if c = quote then some ([], rest)
    else
      (splitAtQuote quote rest).map fun (body, after) => (c :: body, after)

/-- The escapes between single quotes. -/
def singleEscape? (c : Char) : Option Char :=
  if c = '\\' || c = '\'' then some c else none

/-- The escapes between double quotes. -/
def doubleEscape? (c : Char) : Option Char :=
  if c = '\\' || c = '\'' || c = '"' then some c
  else if c = 'a' then some '\x07'
  else if c = 'b' then some '\x08'
  else if c = 'f' then some '\x0c'
  else if c = 'n' then some '\n'
  else if c = 'r' then some '\r'
  else if c = 't' then some '\t'
  else if c = 'v' then some '\x0b'
  else none

/-- The text with its escapes resolved; a backslash before any other
character stands for itself. -/
def unescape (escape? : Char → Option Char) : List Char → List Char
  | '\\' :: c :: rest =>
    match escape? c with
    | some d => d :: unescape escape? rest
    | none => '\\' :: c :: unescape escape? rest
  | c :: rest => c :: unescape escape? rest
  | [] => []

-- ============================================================= entries

/-- A name, and a value if there is an equals sign. -/
abbrev Assignment := String × Option String

/-- A result, or the text where an entry is malformed. -/
abbrev Reading := Except (List Char)

/-- A part of an entry with the text after it. -/
abbrev Part (α : Type) := α × List Char

/-- Leaves out the word `export` and the blanks after it. -/
def skipExport (s : List Char) : List Char :=
  match "export".toList.isPrefixOf s, s.drop 6 with
  | true, c :: rest => if isSpace c then skipSpace rest else s
  | _, _ => s

/-- Reads a name, in single quotes or bare; a comment has none. -/
def name (s : List Char) : Reading (Part (Option (List Char))) :=
  match s with
  | '#' :: _ => .ok (none, s)
  | '\'' :: rest =>
    let text := rest.takeWhile (· != '\'')
    match rest.dropWhile (· != '\'') with
    | _ :: after =>
      if text.isEmpty then .error s else .ok (some text, after)
    | [] => .error s
  | _ =>
    let isNameChar (c : Char) : Bool := c != '=' && c != '#' && !isBlank c
    let text := s.takeWhile isNameChar
    if text.isEmpty then .error s
    else .ok (some text, s.dropWhile isNameChar)

/-- The start of a line's rest that is no comment: a comment begins with
a hash after a blank. -/
def beforeComment : List Char → List Char
  | [] => []
  | c :: rest =>
    if isBlank c && (rest.dropWhile isBlank).head? == some '#' then []
    else c :: beforeComment rest

/-- Reads a value in the given quotes. -/
def quotedValue (quote : Char) (escape? : Char → Option Char)
    (s : List Char) : Reading (Part (List Char)) :=
  match splitAtQuote quote (s.drop 1) with
  | some (body, after) => .ok (unescape escape? body, after)
  | none => .error s

/-- Reads a value, from after the equals sign on. Blanks before a hash
make it a comment even if there is no value. -/
def value (s : List Char) : Reading (Part (List Char)) :=
  match skipSpace s with
  | '\'' :: rest => quotedValue '\'' singleEscape? ('\'' :: rest)
  | '"' :: rest => quotedValue '"' doubleEscape? ('"' :: rest)
  | _ =>
    let line := s.takeWhile (· != '\n')
    .ok (trim (beforeComment line), s.dropWhile (· != '\n'))

/-- Leaves out a comment and the end of the line. -/
def lineEnd (s : List Char) : Reading (List Char) :=
  let s :=
    match skipSpace s with
    | '#' :: rest => rest.dropWhile (· != '\n')
    | _ => s
  match skipSpace s with
  | [] => .ok []
  | '\n' :: rest => .ok rest
  | other => .error other

/-- Reads an entry from its first character on. -/
def entryBody (s : List Char) : Reading (Part (Option Assignment)) := do
  let (name?, s) ← name (skipExport s)
  let (value?, s) ←
    match skipSpace s with
    | '=' :: rest => do
      let (v, after) ← value rest
      pure (some (String.ofList v), after)
    | other => pure (none, other)
  let rest ← lineEnd s
  return (name?.map fun text => (String.ofList text, value?), rest)

/-- Reads an entry, blanks and empty lines before it left out. Gives what
it assigns, if anything, and the text after it. -/
def entry (s : List Char) : Option Assignment × List Char :=
  match s.dropWhile isBlank with
  | [] => (none, [])
  | first =>
    match entryBody first with
    | .ok (assignment, rest) => (assignment, rest)
    | .error rest => (none, nextLine rest)

/-- The entries of a text whose line breaks are line feeds. An entry
always takes a part of the text, so the guard never stops the reading
before the end. -/
def entries (s : List Char) : List Assignment :=
  let (assignment, rest) := entry s
  if rest.length < s.length then assignment.toList ++ entries rest
  else assignment.toList
termination_by s.length

/-- The text without a byte-order mark at its front. -/
def withoutMark : List Char → List Char
  | c :: rest => if c.toNat = 0xFEFF then rest else c :: rest
  | [] => []

/-- What the text of a settings file assigns, in its order. -/
def assignments (text : String) : List Assignment :=
  entries (unifyBreaks (withoutMark text.toList))

end ApiMount.SettingsFile
