/-
Writing documents. The modelled fields come first, in a fixed order, and
the extras after them in the order in which they were read. A field that
was neither written nor assigned is left out, unless an entry is asked
for in full: then it appears with its default.

Writing fails if an extra at the top of the document has no JSON form,
and if values lie too deep inside each other. An entry of a table or a
list is written in two passes: it is turned into plain values, and these
are written. The first pass counts entries, arrays and objects, and takes
what is too deep for something that holds itself. The second counts every
value, so an entry that is not too deep as a whole passes both
(`PathEntry.write_eq_ok_iff`).
-/
import ApiMount.Document.Basic
import ApiMount.Json.Printer
import ApiMount.Text.Loose

namespace ApiMount

-- =============================================================== fields

/-- Which fields are written. -/
inductive Detail where
  /-- Those that were written or assigned. -/
  | declared
  /-- Every field, absent ones with their defaults. -/
  | full
  deriving DecidableEq, Repr

/-- A member for a field that may be absent. -/
def Detail.member (detail : Detail) (name : String) (default : Json) :
    Option Json → Table Json
  | some v => [(name, v)]
  | none =>
    match detail with
    | .declared => []
    | .full => [(name, default)]

/-- A reference as JSON. -/
def Reference.toJson (r : Reference) : Json :=
  .obj (("$ref", .str r.target) :: r.extras)

/-- A schema as JSON: an object or `null`. -/
def schemaJson : Option (Table Json) → Json
  | some members => .obj members
  | none => .null

/-- A parameter as JSON. -/
def Parameter.toJson (detail : Detail) (p : Parameter) : Json :=
  .obj (("name", .str p.name)
    :: (detail.member "required" (.bool false) (p.required.map .bool)
      ++ detail.member "schema" .null (p.schema.map schemaJson)
      ++ ("in", .str p.location.word) :: p.extras))

/-- An entry of a parameter list as JSON. -/
def ParameterEntry.toJson (detail : Detail) : ParameterEntry → Json
  | .reference r => r.toJson
  | .parameter p => p.toJson detail

/-- A route described in place as JSON. -/
def PathItem.toJson (detail : Detail) (i : PathItem) : Json :=
  .obj (detail.member "parameters" (.arr [])
      (i.parameters.map fun ps => .arr (ps.map (·.toJson detail)))
    ++ i.extras)

/-- An entry of the route table as JSON. -/
def PathEntry.toJson (detail : Detail) : PathEntry → Json
  | .reference r => r.toJson
  | .item i => i.toJson detail

/-- A route table as JSON. -/
def Routes.toJson (routes : Routes) : Json :=
  .obj (routes.mapValues fun slot => slot.entry.toJson .declared)

-- =============================================================== faults

/-- What keeps something from being written. -/
inductive WriteFault where
  /-- A value that has no JSON form. -/
  | noForm
  /-- Too many values inside each other. -/
  | tooDeep
  /-- A value that is taken for one that holds itself. -/
  | endless
  /-- A text with half of a surrogate pair, at an index. -/
  | half (code index : Nat)
  /-- A text with halves of surrogate pairs, between two indices. -/
  | halves (first last : Nat)
  deriving DecidableEq, Repr

/-- The words for a fault. -/
def WriteFault.message : WriteFault → String
  | .noForm => "Unable to serialize unknown type: <class 'object'>"
  | .tooDeep =>
    "Error serializing to JSON: ValueError: "
      ++ "Maximum serialization depth exceeded"
  | .endless =>
    "Error serializing to JSON: ValueError: "
      ++ "Circular reference detected (id repeated)"
  | .half code index =>
    "Error serializing to JSON: UnicodeEncodeError: "
      ++ "'utf-8' codec can't encode character '\\u"
      ++ String.ofList (Text.hex 4 code) ++ "' in position "
      ++ toString index ++ ": surrogates not allowed"
  | .halves first last =>
    "Error serializing to JSON: UnicodeEncodeError: "
      ++ "'utf-8' codec can't encode characters in position "
      ++ toString first ++ "-" ++ toString last
      ++ ": surrogates not allowed"

/-- What keeps a loose text from being written, if anything does: its
first halves, as many as stand side by side. -/
def WriteFault.ofText? (t : Text.LooseText) : Option WriteFault :=
  let first := (t.takeWhile (! ·.isHalf)).length
  match (t.drop first).takeWhile Text.LooseChar.isHalf with
  | [] => none
  | [x] => some (.half x.code first)
  | run => some (.halves first (first + run.length - 1))

-- =============================================================== depth

/-- How many values may lie inside each other. -/
def depthLimit : Nat := 255

/-- The members that an entry of a parameter list carries unread: its
extras, and those of its schema. -/
def ParameterEntry.carried : ParameterEntry → Table Json
  | .reference r => r.extras
  | .parameter p =>
    match p.schema with
    | some (some members) => members ++ p.extras
    | _ => p.extras

/-- How many values lie inside each other in an entry of a parameter
list: the entry itself, and the arrays and objects that it carries
unread. Its schema is not counted. -/
def ParameterEntry.nesting (entry : ParameterEntry) : Nat :=
  1 + Json.memberNesting entry.carried

/-- The most nesting of any entry of a parameter list. -/
def ParameterEntry.mostNesting : List ParameterEntry → Nat
  | [] => 0
  | entry :: rest => max entry.nesting (mostNesting rest)

/-- How many values lie inside each other in an entry of the route table:
the entry itself, its parameters, and the arrays and objects that it
carries unread. The list of its parameters is not counted. -/
def PathEntry.nesting : PathEntry → Nat
  | .reference r => 1 + Json.memberNesting r.extras
  | .item i =>
    1 + max (ParameterEntry.mostNesting (i.parameters.getD []))
      (Json.memberNesting i.extras)

/-- A value, unless it is too deep. -/
def unlessTooDeep (v : Json) : Except WriteFault Json :=
  if v.levels ≤ depthLimit then .ok v else .error .tooDeep

-- ============================================================== entries

/-- What is written of an entry of a parameter list. -/
def ParameterEntry.write (detail : Detail) (entry : ParameterEntry) :
    Except WriteFault Json :=
  if depthLimit < entry.nesting then .error .endless
  else unlessTooDeep (entry.toJson detail)

/-- What is written of an entry of the route table. -/
def PathEntry.write (entry : PathEntry) : Except WriteFault Json :=
  if depthLimit < entry.nesting then .error .endless
  else unlessTooDeep (entry.toJson .declared)

/-- What is written of a parameter list's entry on its own. Only what it
carries unread can be too deep. -/
def ParameterEntry.writeAlone (detail : Detail) (entry : ParameterEntry) :
    Except WriteFault Json :=
  if depthLimit < Json.deepestMember entry.carried then .error .tooDeep
  else .ok (entry.toJson detail)

/-- What is written of a route's entry on its own, in full. The entries
of its parameter list are written like entries of any list. -/
def PathEntry.writeAlone (entry : PathEntry) : Except WriteFault Json :=
  let parameters :=
    match entry with
    | .reference _ => []
    | .item i => i.parameters.getD []
  let extras :=
    match entry with
    | .reference r => r.extras
    | .item i => i.extras
  match parameters.mapM (ParameterEntry.write .full) with
  | .error f => .error f
  | .ok _ =>
    if depthLimit < Json.deepestMember extras then .error .tooDeep
    else .ok (entry.toJson .full)

-- ============================================================ documents

/-- What is written of an extra. -/
def Extra.write : Extra → Except WriteFault Json
  | .json v => unlessTooDeep v
  | .unwritable => .error .noForm

/-- What is written of every extra. The first that cannot be written
decides the fault. -/
def Extra.writeAll : Table Extra → Except WriteFault (Table Json)
  | [] => .ok []
  | (key, extra) :: rest => do
    let v ← extra.write
    return (key, v) :: (← writeAll rest)

/-- What is written of every entry of a route table. The first that
cannot be written decides the fault. -/
def Routes.writeAll : Routes → Except WriteFault (Table Json)
  | [] => .ok []
  | (key, slot) :: rest => do
    let v ← slot.entry.write
    return (key, v) :: (← writeAll rest)

/-- What is written of a route table that the document may have. -/
def Routes.write? : Option Routes → Except WriteFault (Option Json)
  | none => .ok none
  | some routes => do return some (.obj (← routes.writeAll))

/-- What is written of a document: the version, the routes, the
extras. -/
def Document.write (d : Document) : Except WriteFault Json := do
  let paths ← Routes.write? d.paths
  let extras ← Extra.writeAll d.extras
  return .obj (("openapi", .str d.version)
    :: (Detail.declared.member "paths" .null paths ++ extras))

/-- The text of a document. -/
def Document.text (d : Document) : Except WriteFault String :=
  d.write.map Json.compact

-- ========================================================= what succeeds

/-- A value is handed on exactly when it stays within the limit, and then
as it is. -/
theorem unlessTooDeep_eq_ok_iff {v w : Json} :
    unlessTooDeep v = .ok w ↔ w = v ∧ v.levels ≤ depthLimit := by
  by_cases h : v.levels ≤ depthLimit <;>
    simp [unlessTooDeep, h, eq_comm]

/-- The written entry is at least as deep as what the entry carries,
whatever else is written of it. -/
theorem ParameterEntry.nesting_le (detail : Detail)
    (entry : ParameterEntry) :
    entry.nesting ≤ (entry.toJson detail).levels := by
  have carried : Json.memberNesting entry.carried
      ≤ Json.deepestMember entry.carried := Json.memberNesting_le _
  cases entry with
  | reference r =>
    simp only [nesting, ParameterEntry.carried, toJson, Reference.toJson,
      Json.levels, Json.deepestMember] at *
    omega
  | parameter p =>
    rcases schema : p.schema with _ | _ | members <;>
      simp only [nesting, ParameterEntry.carried, schema, toJson,
        Parameter.toJson, Option.map_some, Option.map_none,
        Detail.member, schemaJson, Json.levels, Json.deepestMember,
        Json.deepestMember_append] at * <;>
      omega

/-- A written list of entries is at least as deep as the deepest entry. -/
theorem ParameterEntry.mostNesting_le (detail : Detail)
    (entries : List ParameterEntry) :
    mostNesting entries
      ≤ Json.deepestItem (entries.map (·.toJson detail)) := by
  induction entries with
  | nil => exact Nat.le_refl 0
  | cons entry rest ih =>
    have := entry.nesting_le detail
    simp only [mostNesting, List.map_cons, Json.deepestItem]
    omega

/-- A written route is at least as deep as the route. -/
theorem PathEntry.nesting_le (detail : Detail) (entry : PathEntry) :
    entry.nesting ≤ (entry.toJson detail).levels := by
  cases entry with
  | reference r =>
    have := Json.memberNesting_le r.extras
    simp only [nesting, toJson, Reference.toJson, Json.levels,
      Json.deepestMember]
    omega
  | item i =>
    have extras := Json.memberNesting_le i.extras
    have parameters :
        ParameterEntry.mostNesting (i.parameters.getD [])
          ≤ Json.deepestMember (detail.member "parameters" (.arr [])
            (i.parameters.map fun ps =>
              .arr (ps.map (·.toJson detail)))) := by
      match i.parameters with
      | none => simp [ParameterEntry.mostNesting]
      | some ps =>
        have := ParameterEntry.mostNesting_le detail ps
        simp only [Option.getD_some, Option.map_some, Detail.member,
          Json.deepestMember, Json.levels]
        omega
    simp only [nesting, toJson, PathItem.toJson, Json.levels,
      Json.deepestMember_append]
    omega

/-- An entry of the route table is written exactly when it is not too
deep as a whole. -/
theorem PathEntry.write_eq_ok_iff {entry : PathEntry} {v : Json} :
    entry.write = .ok v
      ↔ v = entry.toJson .declared ∧ v.levels ≤ depthLimit := by
  have := entry.nesting_le .declared
  by_cases h : depthLimit < entry.nesting
  · simp only [write, if_pos h]
    constructor
    · intro e
      cases e
    · rintro ⟨rfl, hv⟩
      omega
  · rw [write, if_neg h, unlessTooDeep_eq_ok_iff]
    constructor
    · rintro ⟨rfl, hv⟩
      exact ⟨rfl, hv⟩
    · rintro ⟨rfl, hv⟩
      exact ⟨rfl, hv⟩

end ApiMount
