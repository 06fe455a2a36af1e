/-
Drafts of records. A draft holds a message and its arguments apart, and
can be given attributes by name. The parts of a draft are attributes
themselves: whoever sets one of their names replaces the part, with any
JSON value, and whoever sets the whole table of attributes takes away
every part that the new table lacks. The line is written out last, so
what is wrong with a part appears only then: level, logger, message and
exception, in this order, and last whatever cannot be written as JSON.

An exception that was raised stays with the draft. A value that is set
in its place counts only where nothing was raised, and stands for an
exception only if its second and third items are null.
-/
import ApiMount.Json.Loose
import ApiMount.Log.Message
import ApiMount.Log.Record
import ApiMount.Misuse

namespace ApiMount.Log

open Text

/-- A record before its line is written out. A part is `none` where it
was taken away. `raised` is the text of an exception, `claimed` a value
that is set in its place, and `writer` a value that is set in place of
what writes messages. -/
structure Draft where
  level : Option Json
  logger : Option Json
  message : Option Json
  arguments : Option (Option Arguments)
  attributes : Table Json
  raised : Option String
  claimed : Option Json
  writer : Option Json

-- ============================================================== faults

/-- The ways in which a value fails to stand for an exception. -/
inductive ClaimFault where
  | misuse (m : Misuse)
  /-- A list or a text with fewer than three items. -/
  | tooShort (sequence : String)
  /-- A table, whose members go by name. -/
  | noNumbers
  deriving DecidableEq, Repr

/-- The words for a fault. -/
def ClaimFault.message : ClaimFault → String
  | .misuse m => m.message
  | .tooShort sequence => sequence ++ " index out of range"
  | .noNumbers => "2"

/-- What keeps a draft from becoming a line. -/
inductive DraftFault where
  | misuse (m : Misuse)
  | message (f : FormatFault)
  | exception (f : ClaimFault)
  /-- A value that cannot be written out. -/
  | overrun (o : Json.Overrun)
  deriving DecidableEq, Repr

/-- What is under way while a line is written. -/
def encoding : String := "encoding a JSON object"

/-- The words for a fault. -/
def DraftFault.text : DraftFault → String
  | .misuse m => m.message
  | .message f => f.message
  | .exception f => f.message
  | .overrun o => o.message encoding

-- ================================================================ room

/-- How many values may lie inside each other where a line is written: in
what its message spells out, and, of arrays and objects alone, on the
line itself. -/
structure Room where
  spelled : Nat
  written : Nat
  deriving DecidableEq, Repr

/-- The room where nothing but the writing of one line is under way. -/
def Room.usual : Room := ⟨993, 990⟩

-- ============================================================== levels

/-- Whether a value is equal to a level. -/
def Level.equals (level : Level) : Json → Bool
  | .int n => level == n
  | .float x => Float.ofInt level == x
  | .bool b => level == (if b then 1 else 0)
  | _ => false

/-- What a line shows of a value that is given for a level: of a named
level its name, and of a name its level. Only what can be looked up may
be given. It has no parts, so it needs no more room than for itself. -/
def Level.shown (v : Json) : Except DraftFault Json :=
  match (Level.named.map (·.2)).find? (·.equals v), v with
  | some level, _ => .ok (.str level.name)
  | none, .str name =>
    match Level.ofName? name with
    | some level => .ok (.int level)
    | none => .ok (.str ("Level " ++ name))
  | none, other =>
    if other.isContainer then
      .error (.misuse (.notHashable other.kindName))
    else
      match other.plainWithin 1 with
      | .ok text => .ok (.str ("Level " ++ text))
      | .error o => .error (.overrun o)

-- ========================================================== exceptions

/-- What a line shows of an exception that is nothing. -/
def absentException : String := "NoneType: None"

/-- What a line shows of a value that stands for an exception. Its third
item is looked at first. -/
def claimedException : Json → Except ClaimFault String
  | .arr (_ :: value :: trace :: _) =>
    match trace, value with
    | .null, .null => .ok absentException
    | .null, other =>
      .error (.misuse (.lacking other.kindName "__suppress_context__"))
    | other, _ => .error (.misuse (.lacking other.kindName "tb_frame"))
  | .arr _ => .error (.tooShort "list")
  | .str s =>
    if s.length < 3 then .error (.tooShort "string")
    else .error (.misuse (.lacking (Json.str s).kindName "tb_frame"))
  | .obj _ => .error .noNumbers
  | other => .error (.misuse (.noItems other.kindName))

namespace Draft

-- =============================================================== drafts

/-- What a draft is called where it is misused. -/
def owner : String := "LogRecord"

/-- A draft without attributes. -/
def new (level logger message : Json) (values : List Json)
    (raised : Option String) : Except DraftFault Draft :=
  (Level.shown level).map fun shown =>
    { level := some shown
      logger := some logger
      message := some message
      arguments :=
        some (if values.isEmpty then none else some (.ofList values))
      attributes := []
      raised
      claimed := some .null
      writer := none }

/-- The draft without any of its parts. -/
def emptied (d : Draft) : Draft :=
  { level := none, logger := none, message := none, arguments := none
    attributes := [], raised := d.raised, claimed := none
    writer := none }

/-- The draft with an attribute put in. -/
def put (d : Draft) (name : String) (v : Json) : Draft :=
  match name with
  | "levelname" => { d with level := some v }
  | "name" => { d with logger := some v }
  | "msg" => { d with message := some v }
  | "args" => { d with arguments := some (Arguments.ofValue? v) }
  | "exc_info" => { d with claimed := some v }
  | "getMessage" => { d with writer := some v }
  | _ => { d with attributes := d.attributes.put name v }

/-- Sets an attribute, or all of them. -/
def set (d : Draft) (name : String) (v : Json) : Except Misuse Draft :=
  match Misuse.ofAttribute? owner name v.kindName v.isObject, v with
  | some m, _ => .error m
  | none, .obj members =>
    if name = Misuse.tableName then
      .ok (members.foldl (fun d pair => d.put pair.1 pair.2) d.emptied)
    else .ok (d.put name v)
  | none, _ => .ok (d.put name v)

/-- Sets attributes in turn. -/
def setAll (d : Draft) : List (String × Json) → Except Misuse Draft
  | [] => .ok d
  | (name, v) :: rest =>
    match d.set name v with
    | .error m => .error m
    | .ok after => after.setAll rest

/-- A part that goes by the given name. -/
def part {α : Type} (name : String) : Option α → Except DraftFault α
  | some x => .ok x
  | none => .error (.misuse (.lacking owner name))

/-- The message with its arguments filled in, where there is room for so
many values inside each other. -/
def text (room : Nat) (d : Draft) : Except DraftFault LooseText :=
  match d.writer with
  | some v => .error (.misuse (.notCallable v.kindName))
  | none => do
    let message ← part "msg" d.message
    let shown ← (spelled (message.plainWithin room)).mapError .message
    match ← part "args" d.arguments with
    | some a => (fill room shown a).mapError .message
    | none => return loosen shown

/-- What the line shows of an exception, if there is one. -/
def exception (d : Draft) : Except DraftFault (Option String) :=
  match d.raised with
  | some text => .ok (some text)
  | none => do
    let claimed ← part "exc_info" d.claimed
    if claimed.isNothing then return none
    else
      match claimedException claimed with
      | .ok text => return some text
      | .error f => .error (.exception f)

/-- The object on the line that a draft becomes at the given time. Its
message may hold halves of surrogate pairs. -/
def object (room : Nat) (time : String) (d : Draft) :
    Except DraftFault Json.Loose := do
  let level ← part "levelname" d.level
  let logger ← part "name" d.logger
  let text ← d.text room
  let exception ← d.exception
  let members := ("timestamp", .str time)
    :: lineMembers level logger "" d.attributes exception
  return .obj (Json.Loose.put (Json.Loose.ofMembers members)
    (loosen "message") (.str text))

/-- The line that a draft becomes at the given time. -/
def line (room : Room) (time : String) (d : Draft) :
    Except DraftFault LooseText := do
  let object ← d.object room.spelled time
  (object.writeWithin Json.spacedForm room.written).mapError .overrun

end Draft

end ApiMount.Log
