/-
Documents taken apart. The parts of a document go by name, and whoever
sets a part replaces it with any value. So anything may stand where the
version, the route table, the table of extras or the set of given names
belongs, and what cannot be done with it fails where it is tried.

A part that is missing is looked for among the extras. Setting a name
puts the value in its place first and marks the name as given afterwards:
if it cannot be marked, setting fails, and the value stays.
-/
import ApiMount.Document.Basic
import ApiMount.Json.Literal
import ApiMount.Session.Name

namespace ApiMount.Session

-- ============================================================== values

/-- The kind of a value of an unmodelled key. -/
def kindOf : Extra → String
  | .json v => v.kindName
  | .unwritable => "object"

/-- Why a value has no item under a name. -/
def noItem : Extra → Misuse
  | .json (.arr _) => .listIndex
  | .json (.str _) => .textIndex
  | other => .noItems (kindOf other)

/-- Why nothing can be put into a value under a name. -/
def noAssignment : Extra → Misuse
  | .json (.arr _) => .listIndex
  | other => .noAssignment (kindOf other)

/-- What going through a value gives. -/
def elements (x : Extra) : Except Misuse (List Json) :=
  match x with
  | .json v =>
    match v.elements? with
    | some items => .ok items
    | none => .error (.notIterable v.kindName)
  | .unwritable => .error (.notIterable (kindOf x))

/-- Whether a name is found in a value: among the items of a list or the
keys of an object, or inside a text. -/
def holds (name : String) : Extra → Except Misuse Bool
  | .json (.arr items) => .ok (items.contains (.str name))
  | .json (.obj members) => .ok (Table.has members name)
  | .json (.str s) => .ok (1 < (s.splitOn name).length)
  | other => .error (.notContainer (kindOf other))

/-- Why a name cannot be given a value, if it cannot. -/
def refused? (name : String) (x : Extra) : Option Misuse :=
  let kind := kindOf x
  refusal? name kind (kind == (Json.obj []).kindName)

/-- Whether a value counts as nothing. -/
def countsAsNothing : Extra → Bool
  | .json v => v.isNothing
  | .unwritable => false

-- =============================================================== parts

/-- What stands under a name. -/
inductive Part where
  | routes (r : Routes)
  | value (x : Extra)

/-- The kind of a part. -/
def Part.kind : Part → String
  | .routes _ => (Json.obj []).kindName
  | .value x => kindOf x

/-- What stands where the table of extras belongs. -/
inductive ExtraTable where
  | table (t : Table Extra)
  | value (x : Extra)

/-- A value that is put where the table of extras belongs. -/
def ExtraTable.ofExtra : Extra → ExtraTable
  | .json (.obj members) => .table (Table.mapValues .json members)
  | other => .value other

/-- What going through the extras gives: their keys, in order. -/
def ExtraTable.elements : ExtraTable → Except Misuse (List Json)
  | .table t => .ok (t.keys.map .str)
  | .value x => Session.elements x

/-- The extra under a name. Where nothing stands in place of the table, no
name is found. -/
def ExtraTable.get (extras : ExtraTable) (name : String) :
    Except Misuse Extra :=
  match extras with
  | .table t =>
    match t.get? name with
    | some x => .ok x
    | none => .error (.lacking owner name)
  | .value x =>
    if countsAsNothing x then .error (.lacking owner name)
    else .error (noItem x)

/-- What stands where the set of given names belongs. -/
inductive GivenNames where
  | names (ns : List String)
  | value (x : Extra)

/-- Whether a name was given a value. -/
def GivenNames.has (given : GivenNames) (name : String) :
    Except Misuse Bool :=
  match given with
  | .names ns => .ok (ns.contains name)
  | .value x => holds name x

/-- With one more name, if the names are still a set. -/
def GivenNames.add (given : GivenNames) (name : String) :
    Except Misuse GivenNames :=
  match given with
  | .names ns =>
    .ok (.names (if ns.contains name then ns else ns ++ [name]))
  | .value x => .error (.lacking (kindOf x) "add")

/-- A document taken apart. -/
structure Parts where
  parts : Table Part
  extras : ExtraTable
  given : GivenNames

namespace Parts

/-- The names that were given a value in a whole document: the version,
the routes if they are the document's own, and every extra. -/
def givenNames (d : Document) : List String :=
  versionName :: (if d.paths.isSome then [routesName] else [])
    ++ d.extras.keys

/-- The parts of a whole document. -/
def ofDocument (d : Document) : Parts :=
  { parts := [(versionName, .value (.json (.str d.version))),
      (routesName, .routes d.routes)]
    extras := .table d.extras
    given := .names (givenNames d) }

/-- What a name means: a part, or else an extra. -/
def get (p : Parts) (name : String) : Except Misuse Part :=
  match p.parts.get? name with
  | some part => .ok part
  | none => (p.extras.get name).map .value

/-- With a part under a name. -/
def put (p : Parts) (name : String) (part : Part) : Parts :=
  { p with parts := p.parts.put name part }

/-- With something else under a name, where the name was found. -/
def putBack (p : Parts) (name : String) (part : Part) : Parts :=
  if p.parts.has name then p.put name part
  else
    match part, p.extras with
    | .value x, .table t => { p with extras := .table (t.put name x) }
    | _, _ => p

/-- With every part replaced by the members of an object. -/
def replaceAll (p : Parts) (members : Table Json) : Parts :=
  { p with
    parts := Table.mapValues (fun v => .value (.json v)) members }

-- ============================================================= setting

/-- Whether something succeeded, and the document after it. -/
abbrev Change := Except Misuse Unit × Parts

/-- Marks a name as given. -/
def mark (p : Parts) (name : String) : Change :=
  match p.given.add name with
  | .ok given => (.ok (), { p with given })
  | .error m => (.error m, p)

/-- Why a name cannot be set at all: the table of the ways in which names
are set, or the operation that finds one, may have been replaced. The
fields need no such operation. -/
def noSetter? (p : Parts) (name : String) : Option Misuse :=
  let notFound :=
    (p.parts.get? setterName).map fun part => Misuse.notCallable part.kind
  match p.parts.get? settersName with
  | none => if fieldNames.contains name then none else notFound
  | some (.value (.json (.obj members))) =>
    match Table.get? members name with
    | none | some .null => notFound
    | some v => some (.notCallable v.kindName)
  | some part => some (.lacking part.kind "get")

/-- Sets a field. -/
def setField (p : Parts) (name : String) (part : Part) : Change :=
  match p.noSetter? name with
  | some m => (.error m, p)
  | none => (p.put name part).mark name

/-- Sets what a name means. -/
def setMeaning (p : Parts) (name : String) (value : Extra) : Change :=
  match Meaning.ofName name, value with
  | .version, _ | .routes, _ => (p.put name (.value value)).mark name
  | .parts, .json (.obj members) => (.ok (), p.replaceAll members)
  | .parts, _ => (.error (.notTable (kindOf value)), p)
  | .extras, _ => (.ok (), { p with extras := .ofExtra value })
  | .given, _ => (.ok (), { p with given := .value value })
  | .tool, _ | .aside, _ => (.ok (), p.put name (.value value))
  | .extra, _ =>
    match p.extras with
    | .table t =>
      Parts.mark { p with extras := .table (t.put name value) } name
    | .value x => (.error (noAssignment x), p)

/-- Sets a name. -/
def set (p : Parts) (name : String) (value : Extra) : Change :=
  match p.noSetter? name, refused? name value with
  | some m, _ => (.error m, p)
  | none, some m => (.error m, p)
  | none, none => p.setMeaning name value

end Parts

end ApiMount.Session
