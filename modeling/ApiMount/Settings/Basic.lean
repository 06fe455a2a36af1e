/-
The settings of a deployment, and how they are checked. Values come by
name, as loose JSON values; what a name leaves open takes its default.
Every field is checked and every other name is refused, so one report
shows all that is wrong.

The mandatory parameters may be written as a text: names with commas
between them, or, if the text begins with a bracket, a JSON array. Either
way they denote a set (`namesListed`, `namesValue`).
-/
import ApiMount.Json.Inline
import ApiMount.Misuse
import ApiMount.Problem
import ApiMount.Settings.NameSet
import ApiMount.Text.Blank

namespace ApiMount

open Text

/-- The settings of a deployment. -/
structure Settings where
  pathPrefix : String
  mandatoryParams : NameSet
  corsOrigins : List LooseText
  logLevel : String
  logFormat : String

namespace Settings

/-- What holds where nothing is set. -/
def standard : Settings :=
  { pathPrefix := ""
    mandatoryParams := .empty
    corsOrigins := [loosen "http://localhost:5173"]
    logLevel := "INFO"
    logFormat := "json" }

-- =============================================================== names

/-- The names of the fields. -/
inductive Field where
  | pathPrefix
  | mandatoryParams
  | corsOrigins
  | logLevel
  | logFormat
  deriving DecidableEq, Repr

/-- The name by which a field is set. -/
def Field.key : Field → String
  | .pathPrefix => "path_prefix"
  | .mandatoryParams => "mandatory_params"
  | .corsOrigins => "cors_origins"
  | .logLevel => "log_level"
  | .logFormat => "log_format"

/-- Every field, in the order in which they are checked. -/
def Field.every : List Field :=
  [.pathPrefix, .mandatoryParams, .corsOrigins, .logLevel, .logFormat]

/-- The field that a name sets. -/
def Field.ofKey? (name : String) : Option Field :=
  Field.every.find? fun f => f.key == name

-- ======================================================== single values

/-- A value that must be a loose text. -/
def looseTextAt (path : List Place) : Json.Loose → Checked LooseText
  | .str t => .ok t
  | other => .fail path .stringExpected other

/-- A value that must be a text. -/
def textAt (path : List Place) (v : Json.Loose) : Checked String :=
  (looseTextAt path v).map tighten

/-- The members of an array that must all be loose texts. -/
def textsAt (path : List Place) (items : List Json.Loose) :
    Checked (List LooseText) :=
  .all (items.mapIdx fun i item => looseTextAt (path ++ [.index i]) item)

/-- A value that must be an array of loose texts. -/
def textListAt (path : List Place) :
    Json.Loose → Checked (List LooseText)
  | .arr items => textsAt path items
  | other => .fail path (.arrayExpected .value) other

/-- A value that must be an array of loose texts and denotes their
set. -/
def nameSetAt (path : List Place) : Json.Loose → Checked NameSet
  | .arr items => (textsAt path items).map .ofList
  | other => .fail path .setExpected other

/-- The names in a text that has commas between them: trimmed, and
without the empty ones. -/
def namesListed (text : List Char) : List String :=
  (((splitAt ',' text).map trim).filter (! ·.isEmpty)).map .ofList

/-- The value that a text of names stands for, or the fault with it and
its words. -/
def namesValue (text : String) :
    Except (Json.Inline.Fault × String) Json.Loose :=
  let trimmed := trim text.toList
  match trimmed with
  | '[' :: _ =>
    (Json.Inline.read trimmed).mapError fun f =>
      (f.fault, f.message trimmed)
  | _ => .ok (.arr ((namesListed trimmed).map (.str ∘ loosen)))

/-- A value that denotes a set of names, perhaps written as a text. -/
def namesAt (path : List Place) (v : Json.Loose) : Checked NameSet :=
  match v with
  | .str t =>
    match namesValue (tighten t) with
    | .error (_, reason) => .fail path (.rejected reason) v
    | .ok value => nameSetAt path value
  | other => nameSetAt path other

-- ============================================================ settings

/-- What reports of problems with settings are about. -/
def subject : String := "Settings"

/-- A field's value, checked, or its default if there is none. -/
def fieldOf {α : Type} (values : Table Json.Loose) (f : Field)
    (check : List Place → Json.Loose → Checked α) (default : α) :
    Checked α :=
  match values.get? f.key with
  | some v => check [.key f.key] v
  | none => .ok default

/-- Refuses every name that sets no field. -/
def noOthers (values : Table Json.Loose) : Checked Unit :=
  match values.filter fun (name, _) => (Field.ofKey? name).isNone with
  | [] => .ok ()
  | others => .error (others.map fun (name, v) =>
      ⟨[.key name], .unexpected, v⟩)

/-- The array or object in the text of the mandatory parameters that lies
too deep. It ends the checking of settings before anything is
reported. -/
def tooDeep? (values : Table Json.Loose) : Option Json.Inline.Container :=
  match values.get? Field.mandatoryParams.key with
  | some (.str t) =>
    match namesValue (tighten t) with
    | .error (.tooDeep container, _) => some container
    | _ => none
  | _ => none

/-- Settings from values by name, or every problem with them. -/
def ofValues (values : Table Json.Loose) : Except Rejection Settings :=
  let checked :=
    (fieldOf values .pathPrefix textAt standard.pathPrefix).zip <|
    (fieldOf values .mandatoryParams namesAt
      standard.mandatoryParams).zip <|
    (fieldOf values .corsOrigins textListAt standard.corsOrigins).zip <|
    (fieldOf values .logLevel textAt standard.logLevel).zip <|
    (fieldOf values .logFormat textAt standard.logFormat).zip <|
    noOthers values
  match checked with
  | .ok (pathPrefix, mandatoryParams, corsOrigins, logLevel, logFormat,
      _) =>
    .ok { pathPrefix, mandatoryParams, corsOrigins, logLevel, logFormat }
  | .error problems => .error ⟨subject, problems⟩

/-- What keeps an attribute of settings from being given a value. -/
inductive AssignFault where
  /-- Settings are fixed. -/
  | fixed (r : Rejection)
  | misuse (m : Misuse)

/-- The owner of the attributes that all kinds of settings share. -/
def baseOwner : String := "BaseSettings"

/-- The attributes of settings that are worked out from others. -/
def readOnlyNames : List String := ["__fields__", "__fields_set__"]

/-- Settings are fixed: assigning to a name is refused. Names that begin
with an underscore are not settings, and stay free, except those that are
not given freely. -/
def assign (name : String) (v : Json) : Except AssignFault Unit :=
  if name.toList.head? = some '_' then
    match Misuse.ofAttribute? baseOwner name v.kindName v.isObject with
    | some m => .error (.misuse m)
    | none =>
      if readOnlyNames.contains name then
        .error (.misuse (.readOnly subject name))
      else .ok ()
  else .error (.fixed ⟨subject, [⟨[.key name], .frozen, .value v⟩]⟩)

end Settings

end ApiMount
