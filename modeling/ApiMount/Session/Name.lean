/-
The names at the top of a document, and what each of them means. Most
names mean an extra. Some mean a part of the document, or all extras
together, or something that is used when a document is written or a name
is set; a few can only be read, and the rest mean nothing that shows.
-/
import ApiMount.Misuse

namespace ApiMount.Session

/-- What a document is called where it is misused. -/
def owner : String := "OpenAPIDocument"

/-- The name of the version. -/
def versionName : String := "openapi"

/-- The name of the route table. -/
def routesName : String := "paths"

/-- The names of the fields of a document. -/
def fieldNames : List String := [versionName, routesName]

/-- The name of the table of extras. -/
def extrasName : String := "__pydantic_extra__"

/-- The name of the set of the names that were given a value. -/
def givenName : String := "__pydantic_fields_set__"

/-- The name of the operation that writes a document. -/
def writerName : String := "model_dump_json"

/-- The name of what that operation writes with. -/
def printerName : String := "__pydantic_serializer__"

/-- The name of the table of the ways in which names are set. -/
def settersName : String := "__pydantic_setattr_handlers__"

/-- The name of the operation that finds the way for a name that is not
in that table. -/
def setterName : String := "_setattr_handler"

/-- The names of what is used when a document is written or a name is
set. -/
def toolNames : List String :=
  [writerName, printerName, settersName, setterName]

/-- The names of what is only read off a document. -/
def readOnlyNames : List String :=
  ["model_extra", "model_fields_set", "__fields__", "__fields_set__"]

/-- The names of further operations on documents. -/
def operationNames : List String := [
  "construct", "copy", "dict", "from_orm", "json", "model_computed_fields",
  "model_config", "model_construct", "model_copy", "model_dump",
  "model_fields", "model_json_schema", "model_parametrized_name",
  "model_post_init", "model_rebuild", "model_validate",
  "model_validate_json", "model_validate_strings", "mro", "parse_file",
  "parse_obj", "parse_raw", "register", "schema", "schema_json",
  "update_forward_refs", "validate"]

/-- What a name at the top of a document means. -/
inductive Meaning where
  | version
  | routes
  /-- All parts together. -/
  | parts
  /-- All extras together. -/
  | extras
  /-- The names that were given a value. -/
  | given
  /-- What is used when a document is written or a name is set. -/
  | tool
  /-- Nothing that shows. -/
  | aside
  | extra
  deriving DecidableEq, Repr

/-- What a name means. -/
def Meaning.ofName (name : String) : Meaning :=
  if name = versionName then .version
  else if name = routesName then .routes
  else if name = Misuse.tableName then .parts
  else if name = extrasName then .extras
  else if name = givenName then .given
  else if toolNames.contains name then .tool
  else if name.toList.head? = some '_' || operationNames.contains name then
    .aside
  else .extra

/-- Why a name cannot be given something of a kind, if it cannot. -/
def refusal? (name kind : String) (isTable : Bool) : Option Misuse :=
  match Misuse.ofAttribute? owner name kind isTable with
  | some m => some m
  | none =>
    if readOnlyNames.contains name then some (.readOnly owner name)
    else none

end ApiMount.Session
