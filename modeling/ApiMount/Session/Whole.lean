/-
Steps on a whole document: one whose version is a text and whose routes
are entries. A step that fails gives no document, so nothing is changed
by it.

Sharing puts the slot of one key under another, so both keys hold one
entry from then on.
-/
import ApiMount.Session.Step

namespace ApiMount.Session

/-- The entry under a key, or the failure that names the key. -/
def entryAt (d : Document) (route : String) :
    Except StepFailure PathEntry :=
  match d.entry? route with
  | some entry => .ok entry
  | none => .error (.unknownRoute route)

/-- The document with one key fewer. -/
def remove (route : String) (d : Document) : Document :=
  { d with paths := d.paths.map (Table.without · route) }

/-- The document with an empty table. A table that was not the
document's own stays so. -/
def clear (d : Document) : Document :=
  { d with paths := d.paths.map fun _ => [] }

/-- The document with a slot under a key. -/
def place (target : String) (slot : Slot) (d : Document) : Document :=
  { d with paths := d.paths.map (Table.put · target slot) }

/-- What is answered when only the routes have changed. -/
def keysOf (d : Document) : Answer × Document := (.keys d.routeKeys, d)

/-- What is done with the routes of a whole document. -/
def act (d : Document) :
    RouteAction → Except StepFailure (Answer × Document)
  | .inject template route names =>
    match d.inject template route names with
    | .error f => .error (.parameter f)
    | .ok (report, after) => .ok (.report report, after)
  | .mount base => .ok (keysOf (d.mount base))
  | .full route =>
    match entryAt d route with
    | .error f => .error f
    | .ok entry =>
      match entry.writeAlone with
      | .error f => .error (.unwritableEntry f)
      | .ok v => .ok (.text v.compact, d)
  | .remove route =>
    match entryAt d route with
    | .error f => .error f
    | .ok _ => .ok (keysOf (remove route d))
  | .clear => .ok (keysOf (clear d))
  | .share route target =>
    match d.routes.get? route with
    | none => .error (.unknownRoute route)
    | some slot => .ok (keysOf (place target slot d))

end ApiMount.Session
