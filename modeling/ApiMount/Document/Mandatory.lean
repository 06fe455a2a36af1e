/-
Mandatory parameters. A deployment names query parameters that every
request to one route must carry; `inject` appends one parameter per name
to that route, built from a template and checked like any parameter of a
document.

A route that is absent or is a reference is left alone, and so is
everything when the template turns out to be no query parameter; the
report says so. All names are checked before the route is changed, so a
rejected name leaves the document as it was. A change reaches every key
that holds the same entry.

Every parameter gets a copy of the template of its own, and a template
that is too deep cannot be copied.
-/
import ApiMount.Document.Reader

namespace ApiMount

/-- What keeps parameters from being injected. -/
inductive Mismatch where
  | routeNotFound
  | referenceNotMutable
  | nonQueryParameter
  deriving DecidableEq, Repr

/-- The code of a mismatch. -/
def Mismatch.code : Mismatch → String
  | .routeNotFound => "ROUTE_NOT_FOUND"
  | .referenceNotMutable => "REFERENCE_NOT_MUTABLE"
  | .nonQueryParameter => "NON_QUERY_PARAMETER"

/-- The words for a mismatch. -/
def Mismatch.message : Mismatch → String
  | .routeNotFound => "route not found"
  | .referenceNotMutable => "reference manipulation for paths not allowed"
  | .nonQueryParameter => "non-query parameters not allowed"

/-- The shape of a mandatory parameter: the members of an object whose
`name` is filled in. -/
abbrev ParameterTemplate := Table Json

/-- A required query parameter that is a string. -/
def ParameterTemplate.standard : ParameterTemplate :=
  [("in", .str "query"), ("name", .str "TEMPLATE"),
    ("required", .bool true), ("schema", .obj [("type", .str "string")])]

/-- How many values may lie inside each other in a template. -/
def copyLimit : Nat := 496

/-- What keeps a template from making a parameter. -/
inductive ParameterFault where
  /-- The template cannot be copied. -/
  | tooDeep
  /-- What came out is no parameter. -/
  | rejected (r : Rejection)

/-- The words for a fault. -/
def ParameterFault.message : ParameterFault → String
  | .tooDeep =>
    "maximum recursion depth exceeded while calling a Python object"
  | .rejected r => r.text

/-- The parameter that a template makes for a name. -/
def ParameterTemplate.build (template : ParameterTemplate) (name : Json) :
    Except ParameterFault ParameterEntry :=
  if copyLimit < (Json.obj template).levels then .error .tooDeep
  else
    let filled := Json.obj (Table.put template "name" name)
    (ParameterEntry.ofValue filled).mapError .rejected

/-- What an injection did. -/
inductive InjectionReport where
  /-- The route is not in the table. -/
  | skipped (route : String)
  /-- The route is a reference. -/
  | refused (route : String)
  /-- The route has the parameters named first; for the other names the
  template made no query parameter. -/
  | done (route : String) (injected : List String) (unfit : List Json)
  deriving BEq

/-- An injection's report as JSON. -/
def InjectionReport.toJson : InjectionReport → Json
  | .skipped route => .obj
    [("status", .str "skipped"),
      ("reason", .str Mismatch.routeNotFound.code),
      ("route_key", .str route)]
  | .refused route => .obj
    [("status", .str "error"),
      ("error_code", .str Mismatch.referenceNotMutable.code),
      ("route_key", .str route),
      ("message", .str Mismatch.referenceNotMutable.message)]
  | .done route injected unfit => .obj
    [("status", .str "ok"), ("route_key", .str route),
      ("injected", .arr (injected.map .str)),
      ("errors", .arr (unfit.map fun name => .obj
        [("error_code", .str Mismatch.nonQueryParameter.code),
          ("name", name),
          ("message", .str Mismatch.nonQueryParameter.message)]))]

/-- The parameters that a list of names makes: query parameters, and the
names for which something else came out. The first name that makes no
parameter at all decides the fault. -/
def ParameterTemplate.buildAll (template : ParameterTemplate) :
    List Json → Except ParameterFault (List Parameter × List Json)
  | [] => .ok ([], [])
  | name :: rest =>
    match template.build name with
    | .error f => .error f
    | .ok entry =>
      match buildAll template rest with
      | .error f => .error f
      | .ok (fit, unfit) =>
        match entry with
        | .parameter p =>
          if p.location = .query then .ok (p :: fit, unfit)
          else .ok (fit, name :: unfit)
        | .reference _ => .ok (fit, name :: unfit)

/-- A route with parameters appended to its own. Nothing to append, and
it keeps even the absence of a list. -/
def PathItem.append (i : PathItem) (ps : List Parameter) : PathItem :=
  if ps.isEmpty then i
  else
    { i with
      parameters := some (i.parameters.getD [] ++ ps.map .parameter) }

/-- Changes the entry with the given number wherever it is held. -/
def Routes.update (number : Nat) (f : PathEntry → PathEntry)
    (routes : Routes) : Routes :=
  routes.mapValues fun slot =>
    if slot.number = number then { slot with entry := f slot.entry }
    else slot

/-- An entry with parameters appended, if it is described in place. -/
def PathEntry.append (ps : List Parameter) : PathEntry → PathEntry
  | .item i => .item (i.append ps)
  | other => other

namespace Document

/-- Appends mandatory parameters to a route. -/
def inject (template : ParameterTemplate) (route : String)
    (names : List Json) (d : Document) :
    Except ParameterFault (InjectionReport × Document) :=
  match d.routes.get? route with
  | none => .ok (.skipped route, d)
  | some slot =>
    match slot.entry with
    | .reference _ => .ok (.refused route, d)
    | .item _ =>
      match template.buildAll names with
      | .error f => .error f
      | .ok (fit, unfit) =>
        .ok (.done route (fit.map (·.name)) unfit,
          { d with
            paths := d.paths.map (·.update slot.number (.append fit)) })

end Document

end ApiMount
