/-
JSON values whose strings may be loose text. Settings and log lines carry
them: what is read inside a setting and what a message spells out may
hold halves of surrogate pairs. Every plain value is a loose one
(`Loose.ofJson`).

Not every value is written out. Integers must not be too long, and no
more values may lie inside each other than there is room for where the
writing is done (`Loose.overrun?`). In a literal every value counts, in
JSON only arrays and objects do.
-/
import ApiMount.Json.Literal
import ApiMount.Text.Loose

namespace ApiMount.Json

open Text

/-- A JSON value with loose strings and keys. -/
inductive Loose where
  | null
  | bool (b : Bool)
  | int (n : Int)
  | float (x : Float)
  | str (t : LooseText)
  | arr (items : List Loose)
  | obj (members : List (LooseText × Loose))
  deriving Inhabited

namespace Loose

-- ======================================================== plain values

mutual

/-- A plain value as a loose one. -/
def ofJson : Json → Loose
  | .null => .null
  | .bool b => .bool b
  | .int n => .int n
  | .float x => .float x
  | .str s => .str (loosen s)
  | .arr items => .arr (ofItems items)
  | .obj members => .obj (ofMembers members)

/-- Plain items as loose ones. -/
def ofItems : List Json → List Loose
  | [] => []
  | item :: rest => ofJson item :: ofItems rest

/-- Plain members as loose ones. -/
def ofMembers : List (String × Json) → List (LooseText × Loose)
  | [] => []
  | (key, value) :: rest => (loosen key, ofJson value) :: ofMembers rest

end

-- ============================================================= members

/-- Puts a value under a key: in place if the key is there, else at the
end. -/
def put : List (LooseText × Loose) → LooseText → Loose →
    List (LooseText × Loose)
  | [], key, value => [(key, value)]
  | (k, v) :: rest, key, value =>
    if k = key then (k, value) :: rest else (k, v) :: put rest key value

mutual

/-- The value with every key once in each object: at the place where it
comes first, with the value it has last. -/
def tidy : Loose → Loose
  | .arr items => .arr (tidyItems items)
  | .obj members => .obj (tidyMembers [] members)
  | other => other

/-- The tidy form of every item. -/
def tidyItems : List Loose → List Loose
  | [] => []
  | item :: rest => item.tidy :: tidyItems rest

/-- Members put in turn, each in tidy form. -/
def tidyMembers (before : List (LooseText × Loose)) :
    List (LooseText × Loose) → List (LooseText × Loose)
  | [] => before
  | (key, value) :: rest => tidyMembers (put before key value.tidy) rest

end

-- ============================================================= reports

/-- A piece of loose text inside a literal with the given quote. -/
def literalPiece (quote : Char) : LooseChar → List Char
  | .char c => literalChar quote c
  | .half i => numbered (LooseChar.half i).code

/-- The literal of a loose text. -/
def literalLoose (t : LooseText) : List Char :=
  let quote := quoteFor (t.map LooseChar.tighten)
  quote :: t.flatMap (literalPiece quote) ++ [quote]

mutual

/-- The literal of a value whose objects hold every key once. -/
def literal : Loose → List Char
  | .null => Json.null.literal
  | .bool b => (Json.bool b).literal
  | .int n => (Json.int n).literal
  | .float x => (Json.float x).literal
  | .str t => literalLoose t
  | .arr items => '[' :: literalItems items ++ [']']
  | .obj members => '\x7b' :: literalMembers members ++ ['\x7d']

/-- Items with commas between them. -/
def literalItems : List Loose → List Char
  | [] => []
  | [item] => item.literal
  | item :: rest => item.literal ++ ',' :: ' ' :: literalItems rest

/-- Members with commas between them. -/
def literalMembers : List (LooseText × Loose) → List Char
  | [] => []
  | [(key, value)] => literalLoose key ++ ':' :: ' ' :: value.literal
  | (key, value) :: rest =>
    literalLoose key ++ ':' :: ' ' :: value.literal
      ++ ',' :: ' ' :: literalMembers rest

end

/-- What a report calls the kind of a value. -/
def kindName : Loose → String
  | .null => Json.null.kindName
  | .bool b => (Json.bool b).kindName
  | .int n => (Json.int n).kindName
  | .float x => (Json.float x).kindName
  | .str t => (Json.str (tighten t)).kindName
  | .arr _ => (Json.arr []).kindName
  | .obj _ => (Json.obj []).kindName

-- ============================================================= writing

/-- A piece of loose text as it stands inside a quoted string. A half
stands as it is. -/
def escapedPiece : LooseChar → LooseText
  | .char c => loose (escaped c)
  | .half i => [.half i]

/-- A loose text in quotes. -/
def quotedLoose (t : LooseText) : LooseText :=
  .char '"' :: t.flatMap escapedPiece ++ [.char '"']

mutual

/-- A value in a form. -/
def write (form : Form) : Loose → LooseText
  | .null => loose (Json.null.write form)
  | .bool b => loose ((Json.bool b).write form)
  | .int n => loose ((Json.int n).write form)
  | .float x => loose ((Json.float x).write form)
  | .str t => quotedLoose t
  | .arr items => .char '[' :: writeItems form items ++ [.char ']']
  | .obj members =>
    .char '\x7b' :: writeMembers form members ++ [.char '\x7d']

/-- Items with commas between them. -/
def writeItems (form : Form) : List Loose → LooseText
  | [] => []
  | [item] => item.write form
  | item :: rest =>
    item.write form ++ loose form.comma ++ writeItems form rest

/-- Members with commas between them. -/
def writeMembers (form : Form) : List (LooseText × Loose) → LooseText
  | [] => []
  | [(key, value)] =>
    quotedLoose key ++ loose form.colon ++ value.write form
  | (key, value) :: rest =>
    quotedLoose key ++ loose form.colon ++ value.write form
      ++ loose form.comma ++ writeMembers form rest

end

end Loose

-- ============================================================== limits

/-- What keeps a value from being written out. -/
inductive Overrun where
  /-- An integer has too many digits. -/
  | tooLong
  /-- Too many values lie inside each other. -/
  | tooDeep
  deriving DecidableEq, Repr

/-- The words for it, given what was under way. -/
def Overrun.message (activity : String) : Overrun → String
  | .tooLong =>
    "Exceeds the limit (" ++ toString digitLimit
      ++ " digits) for integer string conversion; "
      ++ "use sys.set_int_max_str_digits() to increase the limit"
  | .tooDeep => "maximum recursion depth exceeded while " ++ activity

namespace Loose

mutual

/-- What keeps a value from being written out where there is room for so
many values inside each other: the first thing that is met, going through
it in order. An array or an object takes up one, and a value without
parts takes up `leaf`. -/
def overrun? (leaf room : Nat) : Loose → Option Overrun
  | .arr items =>
    match room with
    | 0 => some .tooDeep
    | room + 1 => itemsOverrun? leaf room items
  | .obj members =>
    match room with
    | 0 => some .tooDeep
    | room + 1 => membersOverrun? leaf room members
  | .int n =>
    if room < leaf then some .tooDeep
    else if digitLimit < (digits n.natAbs).length then some .tooLong
    else none
  | _ => if room < leaf then some .tooDeep else none

/-- What keeps items from being written out. -/
def itemsOverrun? (leaf room : Nat) : List Loose → Option Overrun
  | [] => none
  | item :: rest =>
    (item.overrun? leaf room).or (itemsOverrun? leaf room rest)

/-- What keeps members from being written out. -/
def membersOverrun? (leaf room : Nat) :
    List (LooseText × Loose) → Option Overrun
  | [] => none
  | (_, value) :: rest =>
    (value.overrun? leaf room).or (membersOverrun? leaf room rest)

end

/-- A value in a form, where there is room for so many arrays and objects
inside each other. -/
def writeWithin (form : Form) (room : Nat) (v : Loose) :
    Except Overrun LooseText :=
  match v.overrun? 0 room with
  | some o => .error o
  | none => .ok (v.write form)

end Loose

/-- The literal of a value, where there is room for so many values inside
each other. -/
def literalWithin (room : Nat) (v : Json) : Except Overrun (List Char) :=
  match (Loose.ofJson v).overrun? 1 room with
  | some o => .error o
  | none => .ok v.literal

/-- The text of a value in a sentence, where there is room for so many
values inside each other. A string needs none. -/
def plainWithin (room : Nat) : Json → Except Overrun String
  | .str s => .ok s
  | other => (other.tidy.literalWithin room).map String.ofList

end ApiMount.Json
