/-
What of a document can be seen from outside: the version, the keys and
entries of the route table, for each parameter its kind, name and flag
with the names of the fields that were set, the keys of the extras, and
whether the table and each parameter list are the document's own. The
values of extras and the numbers of slots cannot be seen.
-/
import ApiMount.Document.Basic

namespace ApiMount

/-- Sorts names by code point. -/
def sortNames (names : List String) : List String :=
  names.mergeSort fun a b => decide (a ≤ b)

/-- What can be seen of an entry of a parameter list. -/
inductive ParameterView where
  | reference (target : String) (extras : List String)
  | parameter (location : Location) (name : String) (required : Bool)
      (fields : List String) (extras : List String)
  deriving DecidableEq, Repr

/-- What can be seen of an entry of the route table. -/
inductive EntryView where
  | reference (target : String) (extras : List String)
  | item (parameters : List ParameterView) (extras : List String)
      (ownParameters : Bool)
  deriving DecidableEq, Repr

/-- What can be seen of a document. -/
structure DocumentView where
  version : String
  paths : Table EntryView
  extras : List String
  ownPaths : Bool
  deriving DecidableEq, Repr

/-- The names of the fields of a parameter that were set, extras
included, each once and sorted. The schema goes by the name
`schema_`. -/
def Parameter.fieldsSet (p : Parameter) : List String :=
  let fields :=
    ["location", "name"]
      ++ (if p.required.isSome then ["required"] else [])
      ++ (if p.schema.isSome then ["schema_"] else [])
  sortNames (fields ++ p.extras.keys).eraseDups

/-- What can be seen of an entry of a parameter list. -/
def ParameterEntry.view : ParameterEntry → ParameterView
  | .reference r => .reference r.target r.extras.keys
  | .parameter p =>
    .parameter p.location p.name (p.required.getD false) p.fieldsSet
      p.extras.keys

/-- What can be seen of an entry of the route table. -/
def PathEntry.view : PathEntry → EntryView
  | .reference r => .reference r.target r.extras.keys
  | .item i =>
    .item ((i.parameters.getD []).map ParameterEntry.view) i.extras.keys
      i.parameters.isSome

/-- What can be seen of a route table. -/
def Routes.view (routes : Routes) : Table EntryView :=
  routes.mapValues fun slot => slot.entry.view

/-- What can be seen of a document. -/
def Document.view (d : Document) : DocumentView :=
  { version := d.version
    paths := d.routes.view
    extras := d.extras.keys
    ownPaths := d.paths.isSome }

end ApiMount
