/-
Reading documents: from text to JSON, from JSON to a document. Checking
a JSON value gathers every problem, depth first and in the order of the
fields, of the list or of the table.

An object with the key `$ref` is a reference, whatever else it holds.
Otherwise a route is described in place, and a parameter is of the kind
that its `in` names. A field may also be written under a second name; the
first name wins, and then the second one is an extra like any other.

When a route table repeats a key, every entry written under it is
checked, and the last one is kept in the first one's place.
-/
import ApiMount.Document.Basic
import ApiMount.Problem
import ApiMount.Json.Reader

namespace ApiMount

open Json

-- ============================================================== fields

/-- A field of an object: its value under the first name or else the
second, with the name that it was found under. -/
def field? (members : List (String × Json)) (name second : String) :
    Option (String × Json) :=
  match lastOf members name with
  | some v => some (name, v)
  | none => (lastOf members second).map (second, ·)

/-- The members that no field has taken, each key once. -/
def extrasOf (members : List (String × Json)) (taken : List String) :
    Table Json :=
  (tidyTable members).filter fun member => !taken.contains member.1

/-- A field that must be there and must be a string. `whole` is the
object that should hold it. -/
def requiredString (path : List Place) (name : String) (whole : Json) :
    Option (String × Json) → Checked String
  | none => Checked.fail (path ++ [.key name]) .missing whole
  | some (_, .str s) => .ok s
  | some (found, v) => Checked.fail (path ++ [.key found]) .stringExpected v

/-- The words that stand for true and false, in small letters. -/
def boolWords : Table Bool :=
  [("1", true), ("true", true), ("t", true), ("yes", true), ("y", true),
    ("on", true), ("0", false), ("false", false), ("f", false),
    ("no", false), ("n", false), ("off", false)]

/-- Whether an integer fits in 64 bits. -/
def fits64 (n : Int) : Bool :=
  -0x8000000000000000 ≤ n && n < 0x8000000000000000

/-- Whether a double is an integer that is less than `2 ^ 63` away from
zero. -/
def isInteger64 (x : Float) : Bool :=
  let size := x.abs
  size < 0x8000000000000000 && size.floor == size

/-- Reads a flag. Besides the JSON booleans, zero and one and the usual
words stand for it; other words, and other integers that fit in 64 bits,
are unreadable, and anything else is no flag at all. A double counts as
an integer if it is one. -/
def readBool (v : Json) : Except Cause Bool :=
  match v with
  | .bool b => .ok b
  | .int n =>
    if n = 0 then .ok false
    else if n = 1 then .ok true
    else if fits64 n then .error .boolUnreadable
    else .error .boolExpected
  | .float x =>
    if x == 0.0 then .ok false
    else if x == 1.0 then .ok true
    else if isInteger64 x then .error .boolUnreadable
    else .error .boolExpected
  | .str s =>
    match boolWords.get? (String.ofList (s.toList.map Char.toLower)) with
    | some b => .ok b
    | none => .error .boolUnreadable
  | _ => .error .boolExpected

/-- A flag that may be absent. -/
def optionalBool (path : List Place) :
    Option (String × Json) → Checked (Option Bool)
  | none => .ok none
  | some (found, v) =>
    match readBool v with
    | .ok b => .ok (some b)
    | .error cause => Checked.fail (path ++ [.key found]) cause v

/-- An object that may be absent or `null`. -/
def optionalObject (origin : Origin) (path : List Place) :
    Option (String × Json) → Checked (Option (Option (Table Json)))
  | none => .ok none
  | some (_, .null) => .ok (some none)
  | some (_, .obj members) => .ok (some (some (tidyTable members)))
  | some (found, v) =>
    Checked.fail (path ++ [.key found]) (.objectExpected origin) v

-- ========================================================== references

/-- Whether an object points elsewhere. -/
def isReference (members : List (String × Json)) : Bool :=
  Table.has members "$ref"

namespace Reference

/-- Checks the members of a reference. -/
def ofMembers (path : List Place) (members : List (String × Json)) :
    Checked Reference :=
  let found := field? members "$ref" "ref"
  (requiredString path "$ref" (.obj members) found).map fun target =>
    { target, extras := extrasOf members (found.toList.map Prod.fst) }

end Reference

-- ========================================================== parameters

namespace Parameter

/-- Checks the members of a parameter passed in the given place. -/
def ofMembers (origin : Origin) (path : List Place) (location : Location)
    (members : List (String × Json)) : Checked Parameter :=
  let schema := field? members "schema" "schema_"
  let taken :=
    ["name", "required", "in"] ++ schema.toList.map Prod.fst
  let parts :=
    Checked.zip
      (requiredString path "name" (.obj members)
        (field? members "name" "name"))
      (Checked.zip
        (optionalBool path (field? members "required" "required"))
        (optionalObject origin path schema))
  parts.map fun (name, required, schema) =>
    { location, name, required, schema
      extras := extrasOf members taken }

end Parameter

namespace ParameterEntry

/-- Checks an entry of a parameter list. -/
def ofJson (origin : Origin) (path : List Place) (v : Json) :
    Checked ParameterEntry :=
  match v with
  | .obj members =>
    let reference :=
      (Reference.ofMembers (path ++ [.key "reference"]) members).map
        .reference
    if isReference members then reference
    else
      match lastOf members "in" with
      | none | some .null => Checked.fail path .tagMissing v
      | some (.str word) =>
        if word = "reference" then reference
        else
          match Location.ofWord? word with
          | some location =>
            (Parameter.ofMembers origin (path ++ [.key word])
              location members).map .parameter
          | none => Checked.fail path (.tagUnknown word) v
      | some other => Checked.fail path (.tagUnknown other.plain) v
  | _ => Checked.fail path .tagMissing v

/-- What a parameter is called in the report of its rejection. -/
def subject : String :=
  "tagged-union[Reference,QueryParameter,HeaderParameter,"
    ++ "PathParameter,CookieParameter]"

/-- Checks a single parameter that the program built. -/
def ofValue (v : Json) : Except Rejection ParameterEntry :=
  (ofJson .value [] v).mapError fun problems => ⟨subject, problems⟩

/-- Checks the entries of a parameter list, the first of which has the
given index. -/
def ofItems (path : List Place) :
    (index : Nat) → List Json → List (Checked ParameterEntry)
  | _, [] => []
  | index, v :: rest =>
    ofJson .text (path ++ [.index index]) v :: ofItems path (index + 1) rest

end ParameterEntry

-- ============================================================== routes

namespace PathItem

/-- Checks the members of a route described in place. -/
def ofMembers (path : List Place) (members : List (String × Json)) :
    Checked PathItem :=
  let extras := extrasOf members ["parameters"]
  let path := path ++ [.key "parameters"]
  match lastOf members "parameters" with
  | none => .ok ⟨none, extras⟩
  | some (.arr items) =>
    (Checked.all (ParameterEntry.ofItems path 0 items)).map
      fun parameters => ⟨some parameters, extras⟩
  | some v => Checked.fail path (.arrayExpected .text) v

end PathItem

namespace PathEntry

/-- Checks an entry of the route table. -/
def ofJson (path : List Place) (v : Json) : Checked PathEntry :=
  match v with
  | .obj members =>
    if isReference members then
      (Reference.ofMembers (path ++ [.key EntryKind.reference.word])
        members).map .reference
    else
      (PathItem.ofMembers (path ++ [.key EntryKind.item.word])
        members).map .item
  | _ => Checked.fail (path ++ [.key EntryKind.item.word]) .recordExpected v

/-- Checks a member of the route table. -/
def ofMember (member : String × Json) : Checked (String × PathEntry) :=
  (ofJson [.key "paths", .key member.1] member.2).map (member.1, ·)

end PathEntry

/-- Puts the entries of a fresh table into slots, numbered from the given
number on: no two of them are one entry. -/
def Routes.fresh : (number : Nat) → Table PathEntry → Routes
  | _, [] => []
  | number, (key, entry) :: rest =>
    (key, ⟨number, entry⟩) :: fresh (number + 1) rest

-- =========================================================== documents

namespace Document

/-- What a document is called in the report of its rejection. -/
def subject : String := "OpenAPIDocument"

/-- Checks the route table, if there is one. -/
def checkPaths : Option Json → Checked (Option Routes)
  | none => .ok none
  | some (.obj members) =>
    (Checked.all (members.map PathEntry.ofMember)).map
      fun entries => some (Routes.fresh 0 (Table.ofPairs entries))
  | some v => Checked.fail [.key "paths"] (.objectExpected .text) v

/-- Checks a whole document. -/
def ofJson (v : Json) : Checked Document :=
  match v with
  | .obj members =>
    let parts :=
      Checked.zip
        (requiredString [] "openapi" v (field? members "openapi" "openapi"))
        (checkPaths (lastOf members "paths"))
    parts.map fun (version, paths) =>
      { version, paths
        extras :=
          (extrasOf members ["openapi", "paths"]).mapValues .json }
  | _ => Checked.fail [] .recordExpected v

/-- A template as it is stored: a text, bytes that may not be one, or a
value that is neither and cannot be read. -/
inductive Raw where
  | text (s : String)
  | bytes (bs : List UInt8)
  | value (v : Json)
  deriving BEq

/-- The template that a value is. -/
def Raw.ofJson : Json → Raw
  | .str s => .text s
  | other => .value other

/-- The bytes of a template that can be read. -/
def Raw.bytes? : Raw → Option (List UInt8)
  | .text s => some (Utf8.bytes s)
  | .bytes bs => some bs
  | .value _ => none

/-- A template as a report shows it. -/
def Raw.offender : Raw → Offender
  | .text s => .value (.str s)
  | .bytes bs => .bytes bs
  | .value v => .value v

/-- Reads a document from bytes; `offender` is what a report shows of
them. Bytes that are not JSON are the only problem. -/
def parseBytes (offender : Offender) (bytes : List UInt8) :
    Checked Document :=
  match Json.read bytes with
  | .error fault =>
    Checked.fail [] (.badJson (fault.message bytes)) offender
  | .ok v => ofJson v

/-- Reads a document from a template. -/
def parse (raw : Raw) : Except Rejection Document :=
  let checked :=
    match raw.bytes? with
    | none => Checked.fail [] .textExpected raw.offender
    | some bytes => parseBytes raw.offender bytes
  checked.mapError fun problems => ⟨subject, problems⟩

end Document

end ApiMount
