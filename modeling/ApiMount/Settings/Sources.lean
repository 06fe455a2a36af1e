/-
Where settings come from. Three sources are laid over each other: the
settings file, the environment over it, and arguments over both. Names
are matched without regard to case. Of two spellings in the file or the
environment the later counts, of two among the arguments the earlier.

The environment may hold anything, so only the names of fields are taken
from it; but not every text can be a variable (`setVariables`). The file
and the arguments are about settings alone: a name that is no field is
passed on, to be refused. The origins that may call the service are a
structured value, which the environment and the file write as JSON.
-/
import ApiMount.Settings.Basic
import ApiMount.Settings.Substitution
import ApiMount.Text.Casing

namespace ApiMount.Settings

open Text

/-- The places where settings are looked for. The environment's
variables stand in the order in which they were first set. -/
structure Sources where
  environment : Table String
  file : String
  arguments : Table Json

-- =========================================================== variables

/-- What keeps a variable from being set. -/
inductive VariableFault where
  /-- Its name or its value holds a NUL character. -/
  | holdsNul
  /-- Its name holds an equals sign. -/
  | badName
  | noName
  /-- Its value is of this kind, which is no text. -/
  | notText (kind : String)
  deriving DecidableEq, Repr

/-- The words for a fault. -/
def VariableFault.message : VariableFault → String
  | .holdsNul => "embedded null byte"
  | .badName => "illegal environment variable name"
  | .noName => "[Errno 22] Invalid argument"
  | .notText kind => "str expected, not " ++ kind

/-- What keeps a variable from being set, if anything does. -/
def VariableFault.find? (name value : String) : Option VariableFault :=
  if name.toList.contains '\x00' || value.toList.contains '\x00' then
    some .holdsNul
  else if name.toList.contains '=' then some .badName
  else if name.isEmpty then some .noName
  else none

/-- The variable that a name and a value make. -/
def assignment (name : String) :
    Json → Except VariableFault (String × String)
  | .str value =>
    match VariableFault.find? name value with
    | some f => .error f
    | none => .ok (name, value)
  | other => .error (.notText other.kindName)

/-- The environment after variables have been set one after another. -/
def setVariables (settings : List (String × Json)) :
    Except VariableFault (Table String) :=
  (settings.mapM fun (name, v) => assignment name v).map Table.ofPairs

-- ============================================================= sources

/-- A source that writes structured values as JSON. -/
inductive WrittenSource where
  | environment
  | file
  deriving DecidableEq, Repr

/-- What stops the loading of settings. -/
inductive LoadFailure where
  /-- A structured value that is no JSON. -/
  | unreadable (field : Field) (source : WrittenSource)
  /-- JSON in which an array or object lies too deep. -/
  | tooDeep (container : Json.Inline.Container)
  | rejected (r : Rejection)

/-- How a source is named in messages. -/
def WrittenSource.name : WrittenSource → String
  | .environment => "EnvSettingsSource"
  | .file => "DotEnvSettingsSource"

/-- The words for a structured value that is no JSON. -/
def unreadableMessage (field : Field) (source : WrittenSource) : String :=
  "error parsing value for field \"" ++ field.key ++ "\" from source \""
    ++ source.name ++ "\""

-- ============================================================ layering

mutual

/-- A value laid over another: objects are merged member by member,
anything else covers what is below it. -/
def layer (below : Json.Loose) : Json.Loose → Json.Loose
  | .obj members =>
    match below with
    | .obj base => .obj (layerMembers base members)
    | _ => .obj members
  | other => other

/-- Members laid over others, in order. -/
def layerMembers (base : List (LooseText × Json.Loose)) :
    List (LooseText × Json.Loose) → List (LooseText × Json.Loose)
  | [] => base
  | (key, v) :: rest =>
    let value :=
      match base.lookup key with
      | some below => layer below v
      | none => v
    layerMembers (Json.Loose.put base key value) rest

end

/-- Values by name laid over others. -/
def layerValues (base above : Table Json.Loose) : Table Json.Loose :=
  above.foldl (fun table (name, v) =>
    match table.get? name with
    | some below => table.put name (layer below v)
    | none => table.put name v) base

-- ====================================================== written sources

/-- The variables of a source under their names in small letters. -/
def lowerKeys {α : Type} (t : Table α) : Table α :=
  .ofPairs (t.map fun (name, v) => (lower name, v))

/-- Whether a field's value is written as JSON. -/
def Field.isDecoded : Field → Bool
  | .corsOrigins => true
  | _ => false

/-- The value that a text gives a field; none if it is JSON's `null`. -/
def Field.decode (f : Field) (source : WrittenSource) (text : String) :
    Except LoadFailure (Option Json.Loose) :=
  if f.isDecoded then
    match Json.Inline.read text.toList with
    | .ok .null => .ok none
    | .ok v => .ok (some v.tidy)
    | .error ⟨.tooDeep container, _⟩ => .error (.tooDeep container)
    | .error _ => .error (.unreadable f source)
  else .ok (some (.str (loosen text)))

/-- The values of the given fields in a source. -/
def writtenFields (source : WrittenSource) (t : Table String) :
    List Field → Except LoadFailure (Table Json.Loose)
  | [] => .ok []
  | f :: rest =>
    match t.get? f.key with
    | none => writtenFields source t rest
    | some text => do
      let value? ← f.decode source text
      let others ← writtenFields source t rest
      return (value?.toList.map fun v => (f.key, v)) ++ others

/-- The values that the environment gives. -/
def environmentValues (s : Sources) :
    Except LoadFailure (Table Json.Loose) :=
  writtenFields .environment (lowerKeys s.environment) Field.every

/-- The variables that the file sets, under their names in small
letters. -/
def fileVariables (s : Sources) : Table String :=
  (lowerKeys (Substitution.resolve s.environment
    (SettingsFile.assignments s.file))).filterMap fun (name, value?) =>
      value?.map fun v => (name, v)

/-- The values that the file gives, and every name of it that is no
field, unless its value is empty. -/
def fileValues (s : Sources) :
    Except LoadFailure (Table Json.Loose) := do
  let written := fileVariables s
  let values ← writtenFields .file written Field.every
  let others := written.filter fun (name, v) =>
    !v.isEmpty && (Field.ofKey? name).isNone
  return values ++ others.map fun (name, v) => (name, .str (loosen v))

-- =========================================================== arguments

/-- The field that an argument's name means. -/
def argumentField? (name : String) : Option Field :=
  Field.ofKey? (lower name)

/-- The arguments under the names of their fields, the others as they
are. A table keeps what is put under a key last, so the arguments that
name fields are put in reverse. -/
def argumentValues (s : Sources) : Table Json.Loose :=
  let (known, others) :=
    s.arguments.partition fun (name, _) => (argumentField? name).isSome
  (Table.ofPairs (known.reverse.map (fun (name, v) => (lower name, v))
    ++ others)).mapValues .ofJson

-- ============================================================= loading

/-- The settings that the sources give. -/
def load (s : Sources) : Except LoadFailure Settings := do
  let environment ← environmentValues s
  let file ← fileValues s
  let values :=
    layerValues file (layerValues environment (argumentValues s))
  match tooDeep? values with
  | some container => .error (.tooDeep container)
  | none => (ofValues values).mapError .rejected

end ApiMount.Settings
