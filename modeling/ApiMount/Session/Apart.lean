/-
Steps on a document taken apart. What is done with the routes is done
with whatever stands in their place, and what cannot be done with it is a
misuse. Mounting sets the routes anew; every other action changes them
where they are, and one that fails changes nothing (`act_of_error`).
-/
import ApiMount.Session.Parts
import ApiMount.Session.Whole

namespace ApiMount.Session.Parts

-- =============================================================== routes

/-- Why nothing can be done with the routes where a value of no use
stands in their place. -/
def misuseOf (x : Extra) : RouteAction → Misuse
  | .inject _ _ _ => .lacking (kindOf x) "get"
  | .mount _ => .lacking (kindOf x) "items"
  | .clear => .lacking (kindOf x) "clear"
  | .remove _ =>
    match x with
    | .json (.arr _) => .listIndex
    | other => .noDeletion (kindOf other)
  | .full _ | .share _ _ => noItem x

/-- What is done with an object in place of the route table. Its members
are no entries: nothing is injected into them, and they cannot be written
on their own. -/
def actOnObject (t : Table Json) :
    RouteAction → Except StepFailure (Answer × Table Json)
  | .inject _ route _ =>
    match t.get? route with
    | none | some .null => .ok (.report (.skipped route), t)
    | some _ => .ok (.report (.refused route), t)
  | .mount base =>
    let after := t.mount base
    .ok (.keys after.keys, after)
  | .full route =>
    match t.get? route with
    | none => .error (.unknownRoute route)
    | some v => .error (.misuse (.lacking v.kindName writerName))
  | .remove route =>
    if t.has route then
      let after := t.without route
      .ok (.keys after.keys, after)
    else .error (.unknownRoute route)
  | .clear => .ok (.keys [], [])
  | .share route target =>
    match t.get? route with
    | none => .error (.unknownRoute route)
    | some v =>
      let after := t.put target v
      .ok (.keys after.keys, after)

/-- A document that has nothing but routes. -/
def routesAlone (r : Routes) : Document :=
  { version := "", paths := some r, extras := [] }

/-- What is done with a part that stands where the route table
belongs. -/
def actOn (part : Part) (a : RouteAction) :
    Except StepFailure (Answer × Part) :=
  match part, a with
  | .routes r, a =>
    (Session.act (routesAlone r) a).map fun (answer, after) =>
      (answer, .routes after.routes)
  | .value (.json (.obj members)), a =>
    (actOnObject members a).map fun (answer, after) =>
      (answer, .value (.json (.obj after)))
  | .value (.json (.arr _)), .clear =>
    .ok (.keys [], .value (.json (.arr [])))
  | .value x, a => .error (.misuse (misuseOf x a))

/-- What is done with the routes: the answer or the failure, and the
document after it. -/
def act (p : Parts) (a : RouteAction) :
    Except StepFailure Answer × Parts :=
  match p.get routesName with
  | .error m => (.error (.misuse m), p)
  | .ok part =>
    match actOn part a with
    | .error f => (.error f, p)
    | .ok (answer, after) =>
      if a.sets then
        match p.setField routesName after with
        | (.error m, q) => (.error (.misuse m), q)
        | (.ok (), q) => (.ok answer, q)
      else (.ok answer, p.putBack routesName after)

/-- An action that fails without setting anything leaves the parts. -/
theorem act_of_error {p : Parts} {a : RouteAction} {f : StepFailure}
    (ha : a.sets = false) (h : (p.act a).1 = .error f) :
    (p.act a).2 = p := by
  unfold act at h ⊢
  cases found : p.get routesName with
  | error m => rfl
  | ok part =>
    cases result : actOn part a with
    | error g => simp [result]
    | ok pair => simp [found, result, ha] at h

-- =============================================================== viewing

/-- What can be seen of a part that stands where the route table
belongs. -/
def viewRoutes : Part → Except Misuse (Table EntryView)
  | .routes r => .ok r.view
  | .value (.json (.obj [])) => .ok []
  | .value (.json (.obj ((_, v) :: _))) =>
    .error (.lacking v.kindName "ref")
  | .value x => .error (.lacking (kindOf x) "items")

/-- A part as a JSON value; what has none shows as nothing. -/
def shown : Part → Json
  | .value (.json v) => v
  | _ => .null

/-- What can be seen of a document taken apart. -/
def view (p : Parts) : Except Misuse Sight := do
  let paths ← viewRoutes (← p.get routesName)
  let version ← p.get versionName
  let extras ← p.extras.elements
  let ownPaths ← p.given.has routesName
  return { version := shown version, paths, extras, ownPaths }

-- =============================================================== writing

/-- What is written of every member of an object. -/
def writeMembers : Table Json → Except WriteFault (Table Json)
  | [] => .ok []
  | (key, v) :: rest => do
    let w ← unlessTooDeep v
    return (key, w) :: (← writeMembers rest)

/-- What is written of the part under a name. The members of an object in
place of the route table are written one by one. -/
def writePart (name : String) : Part → Except WriteFault Json
  | .routes r => return .obj (← r.writeAll)
  | .value (.json (.obj members)) =>
    if name = routesName then return .obj (← writeMembers members)
    else unlessTooDeep (.obj members)
  | .value x => x.write

/-- What is written of those parts that have one of the given names. -/
def writeParts (names : List String) :
    Table Part → Except WriteFault (Table Json)
  | [] => .ok []
  | (name, part) :: rest =>
    if names.contains name then do
      let v ← writePart name part
      return (name, v) :: (← writeParts names rest)
    else writeParts names rest

/-- What is written of a document taken apart, of which the given names
were given a value. Only fields are written of the parts; but where the
extras are no table, everything is, and the extras come beside it. -/
def write (p : Parts) (names : List String) : Except WriteFault Json := do
  let fields := names.filter fieldNames.contains
  match p.extras with
  | .table t =>
    let parts ← writeParts fields p.parts
    return .obj (parts ++ (← Extra.writeAll t))
  | .value (.json .null) => return .obj (← writeParts fields p.parts)
  | .value x =>
    let parts ← writeParts names p.parts
    unlessTooDeep (.arr [.obj parts, ← x.write])

/-- Why a document is not written whose given names are no set. -/
def notSetReason (x : Extra) : String :=
  "Error serializing to JSON: TypeError: "
    ++ (Misuse.notSet (kindOf x)).message

/-- The text of a document taken apart. What stands under the name of the
operation that writes, or of what it writes with, is used to write. -/
def text (p : Parts) : Except StepFailure String :=
  match p.parts.get? writerName, p.parts.get? printerName, p.given with
  | some part, _, _ => .error (.misuse (.notCallable part.kind))
  | none, some part, _ => .error (.misuse (.lacking part.kind "to_json"))
  | none, none, .value x =>
    .error (.fault (.unwritableDocument (notSetReason x)))
  | none, none, .names names =>
    match p.write names with
    | .error f => .error (.fault (.unwritableDocument f.message))
    | .ok v => .ok v.compact

end ApiMount.Session.Parts
