/-
Problems that checking a value finds. A problem says where it was found,
what is wrong there, and which value is the offender. Checking does not
stop at the first problem: `Checked.zip` and `Checked.all` gather the
problems of every part, in the order of the parts, so a value passes
exactly when each part does (`Checked.all_eq_ok_iff`).

A `Rejection` is what a caller sees: the name of what was checked and
its problems, with one text for both people and logs.
-/
import ApiMount.Json.Loose
import ApiMount.Text.Basic

namespace ApiMount

-- ============================================================ problems

/-- One step from a value to a part of it. -/
inductive Place where
  | key (name : String)
  | index (i : Nat)
  deriving DecidableEq, Repr, Inhabited

/-- Where a checked value came from; the names of arrays and objects in
messages depend on it. -/
inductive Origin where
  /-- A JSON text. -/
  | text
  /-- A value built by the program. -/
  | value
  deriving DecidableEq, Repr

/-- What is wrong with a value. -/
inductive Cause where
  | missing
  | stringExpected
  | boolExpected
  | boolUnreadable
  | arrayExpected (origin : Origin)
  | objectExpected (origin : Origin)
  | recordExpected
  | setExpected
  | tagMissing
  | tagUnknown (tag : String)
  /-- There is no text to read. -/
  | textExpected
  | badJson (message : String)
  | unexpected
  | frozen
  | rejected (reason : String)
  deriving DecidableEq, Repr

/-- The code of a cause. -/
def Cause.code : Cause → String
  | .missing => "missing"
  | .stringExpected => "string_type"
  | .boolExpected => "bool_type"
  | .boolUnreadable => "bool_parsing"
  | .arrayExpected _ => "list_type"
  | .objectExpected _ => "dict_type"
  | .recordExpected => "model_type"
  | .setExpected => "frozen_set_type"
  | .tagMissing => "union_tag_not_found"
  | .tagUnknown _ => "union_tag_invalid"
  | .textExpected => "json_type"
  | .badJson _ => "json_invalid"
  | .unexpected => "extra_forbidden"
  | .frozen => "frozen_instance"
  | .rejected _ => "value_error"

/-- The words for a cause. -/
def Cause.message : Cause → String
  | .missing => "Field required"
  | .stringExpected => "Input should be a valid string"
  | .boolExpected => "Input should be a valid boolean"
  | .boolUnreadable =>
    "Input should be a valid boolean, unable to interpret input"
  | .arrayExpected .text => "Input should be a valid array"
  | .arrayExpected .value => "Input should be a valid list"
  | .objectExpected .text => "Input should be an object"
  | .objectExpected .value => "Input should be a valid dictionary"
  | .recordExpected => "Input should be an object"
  | .setExpected => "Input should be a valid frozenset"
  | .tagMissing =>
    "Unable to extract tag using discriminator _parameter_tag()"
  | .tagUnknown tag =>
    "Input tag '" ++ tag ++ "' found using _parameter_tag() does not "
      ++ "match any of the expected tags: 'reference', 'query', 'header', "
      ++ "'path', 'cookie'"
  | .textExpected => "JSON input should be string, bytes or bytearray"
  | .badJson message => "Invalid JSON: " ++ message
  | .unexpected => "Extra inputs are not permitted"
  | .frozen => "Instance is frozen"
  | .rejected reason => "Value error, " ++ reason

/-- What was found where a problem is. -/
inductive Offender where
  | value (v : Json)
  | loose (v : Json.Loose)
  | bytes (bs : List UInt8)
  deriving Inhabited

instance : Coe Json Offender := ⟨.value⟩

instance : Coe Json.Loose Offender := ⟨.loose⟩

/-- The offender as a literal. -/
def Offender.literal : Offender → List Char
  | .value v => v.tidy.literal
  | .loose v => v.tidy.literal
  | .bytes bs => Json.literalBytes bs

/-- What kind of value the offender is. -/
def Offender.kindName : Offender → String
  | .value v => v.kindName
  | .loose v => v.kindName
  | .bytes _ => "bytes"

/-- A problem: where, what, and the value found there. -/
structure Problem where
  path : List Place
  cause : Cause
  offender : Offender

/-- A step as it stands in a report. Dots part the steps of a path, so a
name with a dot of its own is put between backquotes. -/
def Place.text : Place → String
  | .key name =>
    if name.toList.contains '.' then "\x60" ++ name ++ "\x60" else name
  | .index i => toString i

/-- The lines of a report on one problem. -/
def Problem.text (p : Problem) : String :=
  let place :=
    if p.path.isEmpty then ""
    else "\n" ++ String.intercalate "." (p.path.map Place.text)
  place ++ "\n  " ++ p.cause.message ++ " [type=" ++ p.cause.code
    ++ ", input_value="
    ++ String.ofList (Text.excerpt p.offender.literal)
    ++ ", input_type=" ++ p.offender.kindName ++ "]\n"
    ++ "    For further information visit "
    ++ "https://errors.pydantic.dev/2.14/v/" ++ p.cause.code

-- ========================================================== rejections

/-- What was checked, and everything that is wrong with it. -/
structure Rejection where
  subject : String
  problems : List Problem

/-- The report of a rejection. -/
def Rejection.text (r : Rejection) : String :=
  let n := r.problems.length
  toString n ++ " validation error" ++ (if n = 1 then "" else "s")
    ++ " for " ++ r.subject ++ String.join (r.problems.map Problem.text)

-- ============================================================ checking

/-- A value that passed, or every problem with it. -/
abbrev Checked (α : Type) := Except (List Problem) α

namespace Checked

variable {α β : Type}

/-- One problem. -/
def fail (path : List Place) (cause : Cause) (offender : Offender) :
    Checked α :=
  .error [⟨path, cause, offender⟩]

/-- Both parts, or the problems of both. -/
def zip : Checked α → Checked β → Checked (α × β)
  | .ok a, .ok b => .ok (a, b)
  | .ok _, .error e => .error e
  | .error e, .ok _ => .error e
  | .error e, .error f => .error (e ++ f)

/-- Every part, or the problems of all. -/
def all : List (Checked α) → Checked (List α)
  | [] => .ok []
  | c :: rest => (zip c (all rest)).map fun pair => pair.1 :: pair.2

/-- Two checks made side by side succeed together. -/
theorem zip_eq_ok_iff {x : Checked α} {y : Checked β} {a : α} {b : β} :
    zip x y = .ok (a, b) ↔ x = .ok a ∧ y = .ok b := by
  cases x <;> cases y <;> simp [zip]

/-- A list of parts passes exactly when each of them does. -/
theorem all_eq_ok_iff {cs : List (Checked α)} {as : List α} :
    all cs = .ok as ↔ cs = as.map .ok := by
  induction cs generalizing as with
  | nil => cases as <;> simp [all]
  | cons c rest ih =>
    cases as with
    | nil =>
      cases c <;> cases h : all rest <;>
        simp [all, zip, h, Except.map]
    | cons b bs =>
      have := @ih bs
      cases c <;> cases h : all rest <;>
        simp_all [all, zip, Except.map]

end Checked

end ApiMount
