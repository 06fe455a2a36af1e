/-
Setting up the root logger. A call adds one handler, which writes JSON
lines or plain ones, and then sets the level by name. Handlers add up
over calls.

A level is named in any case, and a text that names none stands for
`INFO`. Two texts are reserved for something that is no level: they are
refused, and since the handler is added first, it stays even then.
-/
import ApiMount.Json.Literal
import ApiMount.Log.Record
import ApiMount.Text.Casing

namespace ApiMount.Log

-- ============================================================ handlers

/-- How a handler writes a record. -/
inductive LineForm where
  | json
  | plain
  deriving DecidableEq, Repr

/-- The form with a given name: JSON has one, every other name means
plain lines. -/
def LineForm.ofName (name : String) : LineForm :=
  if name = "json" then .json else .plain

/-- A record as a plain line, without the time at its front. -/
def Record.plainRest (r : Record) : String :=
  r.level.name ++ " " ++ r.logger ++ " — " ++ r.message

-- ============================================================== levels

/-- The texts that are reserved for something other than a level. -/
inductive Reserved where
  /-- The pattern of plain lines that is used without any setup. -/
  | defaultPattern
  /-- The table of pattern styles. -/
  | patternStyles
  deriving DecidableEq, Repr

/-- The name of a reserved text. -/
def Reserved.name : Reserved → String
  | .defaultPattern => "BASIC_FORMAT"
  | .patternStyles => "_STYLES"

/-- Why a reserved text is no level. -/
def Reserved.refusal : Reserved → String
  | .defaultPattern =>
    "Unknown level: '%(levelname)s:%(name)s:%(message)s'"
  | .patternStyles =>
    "Level not an integer or a valid string: \x7b"
      ++ "'%': (<class 'logging.PercentStyle'>, "
      ++ "'%(levelname)s:%(name)s:%(message)s'), "
      ++ "'\x7b': (<class 'logging.StrFormatStyle'>, "
      ++ "'\x7blevelname\x7d:\x7bname\x7d:\x7bmessage\x7d'), "
      ++ "'$': (<class 'logging.StringTemplateStyle'>, "
      ++ "'$\x7blevelname\x7d:$\x7bname\x7d:$\x7bmessage\x7d')\x7d"

/-- Every reserved text. -/
def Reserved.every : List Reserved := [.defaultPattern, .patternStyles]

/-- The level that a text means. -/
def levelOf (text : String) : Except Reserved Level :=
  let name := Text.upper text
  match Reserved.every.find? fun r => r.name == name with
  | some r => .error r
  | none => .ok ((Level.ofName? name).getD .info)

-- =============================================================== setup

/-- The root logger. -/
structure RootLogger where
  level : Level
  handlers : List LineForm
  deriving DecidableEq, Repr

/-- The level and the form of a setup that names none. -/
def usualSetup : String × String := ("INFO", "json")

/-- A root logger that nothing has been done to, at the highest level. -/
def RootLogger.bare : RootLogger := ⟨.critical, []⟩

/-- Adds a handler, then sets the level. -/
def RootLogger.setUp (level form : String) (r : RootLogger) :
    RootLogger × Option Reserved :=
  let handlers := r.handlers ++ [LineForm.ofName form]
  match levelOf level with
  | .ok level => (⟨level, handlers⟩, none)
  | .error reserved => ({ r with handlers }, some reserved)

/-- Sets up again and again, until a level is refused. -/
def RootLogger.setUpAll (r : RootLogger) :
    List (String × String) → Except Reserved RootLogger
  | [] => .ok r
  | (level, form) :: rest =>
    match r.setUp level form with
    | (r, none) => setUpAll r rest
    | (_, some reserved) => .error reserved

-- ================================================== setup by any values

/-- What keeps a setup by any values from being made. -/
inductive SetupFault where
  | reserved (r : Reserved)
  /-- A level of this kind, which is no text. -/
  | levelNotText (kind : String)
  /-- More values than a level and a form. -/
  | tooManyValues (count : Nat)
  deriving DecidableEq, Repr

/-- The words for a fault. -/
def SetupFault.message : SetupFault → String
  | .reserved r => r.refusal
  | .levelNotText kind => "'" ++ kind ++ "' object has no attribute 'upper'"
  | .tooManyValues count =>
    "setup_logging() takes from 0 to 2 positional arguments but "
      ++ toString count ++ " were given"

/-- The level and the form that values ask for, in this order; what is
absent is as usual. A form that is no text is the name of none. -/
def setupOf (values : List Json) : Except SetupFault (String × String) :=
  let form :=
    match values.drop 1 with
    | [] => usualSetup.2
    | .str name :: _ => name
    | _ => ""
  if 2 < values.length then .error (.tooManyValues values.length)
  else
    match values.head? with
    | none => .ok usualSetup
    | some (.str level) => .ok (level, form)
    | some other => .error (.levelNotText other.kindName)

/-- Sets up again and again by any values, until one setup fails. -/
def RootLogger.setUpByValues (r : RootLogger) :
    List (List Json) → Except SetupFault RootLogger
  | [] => .ok r
  | values :: rest => do
    let (level, form) ← setupOf values
    match r.setUp level form with
    | (r, none) => setUpByValues r rest
    | (_, some reserved) => .error (.reserved reserved)

end ApiMount.Log
