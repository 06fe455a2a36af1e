/-
Log records and the line that each becomes. A record has a level, the
name of its logger, a message, any attributes, and perhaps the text of
an exception. Of the attributes a line shows seven, always in the same
order, and only those that are not null; `Record.members` is the line
as a list of members, without the time at its front.
-/
import ApiMount.Json.Printer

namespace ApiMount.Log

/-- How severe a record is; any number may stand for a level. -/
abbrev Level := Int

namespace Level

def notSet : Level := 0
def debug : Level := 10
def info : Level := 20
def warning : Level := 30
def error : Level := 40
def critical : Level := 50

/-- The name of a level. -/
def name (level : Level) : String :=
  if level = notSet then "NOTSET"
  else if level = debug then "DEBUG"
  else if level = info then "INFO"
  else if level = warning then "WARNING"
  else if level = error then "ERROR"
  else if level = critical then "CRITICAL"
  else "Level " ++ String.ofList (Json.integer level)

/-- The levels by name. -/
def named : List (String × Level) := [
  ("CRITICAL", critical), ("FATAL", critical), ("ERROR", error),
  ("WARNING", warning), ("WARN", warning), ("INFO", info),
  ("DEBUG", debug), ("NOTSET", notSet)]

/-- The level with a given name. -/
def ofName? (name : String) : Option Level := named.lookup name

end Level

/-- A log record. -/
structure Record where
  level : Level
  logger : String
  message : String
  attributes : Table Json
  exception : Option String
  deriving BEq

/-- The last line of an exception's report: its kind, and its text if it
has one. -/
def exceptionLine (kind text : String) : String :=
  if text.isEmpty then kind else kind ++ ": " ++ text

/-- The attributes that a line shows, in its order. -/
def shownAttributes : List String :=
  ["route_key", "path_prefix", "error_code", "category", "severity",
    "path", "parameter_name"]

/-- The member for an attribute, unless it is absent or null. -/
def shownMember (attributes : Table Json) (name : String) :
    Option (String × Json) :=
  match attributes.get? name with
  | none | some .null => none
  | some v => some (name, v)

/-- The members of a line after the time. -/
def lineMembers (level logger : Json) (message : String)
    (attributes : Table Json) (exception : Option String) : Table Json :=
  [("level", level), ("logger", logger), ("message", .str message)]
    ++ shownAttributes.filterMap (shownMember attributes)
    ++ exception.toList.map fun text => ("exception", .str text)

/-- The members of a record's line after the time. -/
def Record.members (r : Record) : Table Json :=
  lineMembers (.str r.level.name) (.str r.logger) r.message r.attributes
    r.exception

/-- Of records, those that a threshold lets through. -/
def atLeast (threshold : Level) (records : List Record) : List Record :=
  records.filter fun r => threshold ≤ r.level

end ApiMount.Log
