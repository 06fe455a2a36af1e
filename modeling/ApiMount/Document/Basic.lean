/-
API documents, as far as they are customized. Of a document the version,
the route table and the parameters of a route are modelled; whatever
else stands in a modelled object is kept as an extra, in order and
unread.

A field that may be absent is an `Option`, and `none` means that it was
neither written nor assigned: nothing is invented when the document is
written again.

Two keys of the route table may hold one entry, so that a change made
through the one shows under the other. The entries therefore sit in
slots, and a slot's number says which entry it holds: slots of one
number are one entry.
-/
import ApiMount.Json.Basic

namespace ApiMount

/-- A pointer to a definition elsewhere in the document. -/
structure Reference where
  target : String
  extras : Table Json
  deriving BEq

/-- Where a parameter is passed. -/
inductive Location where
  | query
  | header
  | path
  | cookie
  deriving DecidableEq, Repr

/-- A parameter that is described in place. -/
structure Parameter where
  location : Location
  name : String
  required : Option Bool
  /-- `some none` when the schema is written as `null`. -/
  schema : Option (Option (Table Json))
  extras : Table Json
  deriving BEq

/-- An entry of a parameter list. -/
inductive ParameterEntry where
  | reference (r : Reference)
  | parameter (p : Parameter)
  deriving BEq

/-- A route described in place. Its operations are extras. -/
structure PathItem where
  parameters : Option (List ParameterEntry)
  extras : Table Json
  deriving BEq

/-- An entry of the route table. -/
inductive PathEntry where
  | reference (r : Reference)
  | item (i : PathItem)
  deriving BEq

/-- An entry with the number that tells it from other entries. -/
structure Slot where
  number : Nat
  entry : PathEntry
  deriving BEq

/-- A value of an unmodelled key at the top of a document: JSON, or
something that has no JSON form. -/
inductive Extra where
  | json (v : Json)
  | unwritable
  deriving BEq

/-- The routes of a document, in order. -/
abbrev Routes := Table Slot

/-- A document. `paths` is `none` when the document has no route table
of its own; the table then counts as empty. -/
structure Document where
  version : String
  paths : Option Routes
  extras : Table Extra
  deriving BEq

namespace Document

/-- The route table, empty if the document has none of its own. -/
def routes (d : Document) : Routes := d.paths.getD []

/-- The keys of the route table, in order. -/
def routeKeys (d : Document) : List String := d.routes.keys

/-- The entry under a key. -/
def entry? (d : Document) (route : String) : Option PathEntry :=
  (d.routes.get? route).map Slot.entry

end Document

-- ======================================================= names of things

/-- The word for a location in a document. -/
def Location.word : Location → String
  | .query => "query"
  | .header => "header"
  | .path => "path"
  | .cookie => "cookie"

/-- Every location, in the order in which they are listed. -/
def Location.every : List Location := [.query, .header, .path, .cookie]

/-- The location with the given word. -/
def Location.ofWord? (word : String) : Option Location :=
  Location.every.find? (·.word == word)

/-- A location is found by its own word. -/
theorem Location.ofWord?_word (l : Location) :
    Location.ofWord? l.word = some l := by
  cases l <;> decide

/-- The kinds of entry that a table or a list holds. -/
inductive EntryKind where
  | reference
  | item
  deriving DecidableEq, Repr

/-- The word for a kind of entry. -/
def EntryKind.word : EntryKind → String
  | .reference => "reference"
  | .item => "item"

/-- Every kind of entry. -/
def EntryKind.every : List EntryKind := [.reference, .item]

/-- The one route that receives mandatory parameters. -/
def designatedRoute : String := "/graph"

end ApiMount
