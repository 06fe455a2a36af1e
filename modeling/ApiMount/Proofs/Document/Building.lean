/-
What a template makes. For one name it makes the entry that it is read
as, with the name filled in (`build_eq_ok_iff`). For several it goes from
name to name, and each turn adds a query parameter or a name that is
unfit (`buildAll_cons_eq_ok_iff`). An injection appends what is made to
the route that it is for (`Document.inject_cases`).
-/
import ApiMount.Document.Mandatory
import ApiMount.Proofs.Document.Reading

namespace ApiMount

open Json Table

namespace ParameterEntry

variable {e : ParameterEntry} {p : Parameter}

/-- The query parameter that an entry is, if it is one. -/
def query? : ParameterEntry → Option Parameter
  | .parameter p => if p.location = .query then some p else none
  | .reference _ => none

/-- Of the entries of a list those in the query count. -/
theorem query?_eq_some_iff :
    e.query? = some p ↔ e = .parameter p ∧ p.location = .query := by
  cases e with
  | reference r => exact iff_of_false nofun nofun
  | parameter q =>
      unfold query?
      dsimp only
      rw [Option.ite_none_right_eq_some, Option.some.injEq,
        ParameterEntry.parameter.injEq]
      constructor
      · rintro ⟨hquery, rfl⟩
        exact ⟨rfl, hquery⟩
      · rintro ⟨rfl, hquery⟩
        exact ⟨hquery, rfl⟩

/-- What has been made for names, with the entry for one more name in
front. -/
def joining (e : ParameterEntry) (name : Json)
    (made : List Parameter × List Json) : List Parameter × List Json :=
  match e.query? with
  | some p => (p :: made.1, made.2)
  | none => (made.1, name :: made.2)

end ParameterEntry

namespace ParameterTemplate

variable {template : ParameterTemplate} {e : ParameterEntry}

/-- A template makes what it is read as, with the name filled in, if it
can be copied. -/
theorem build_eq_ok_iff {name : Json} :
    template.build name = .ok e
      ↔ (Json.obj template).levels ≤ copyLimit
        ∧ e.IsFrom (.obj (put template "name" name)) := by
  unfold build
  by_cases h : copyLimit < (Json.obj template).levels
  · rw [if_pos h]
    exact iff_of_false nofun fun hmakes => Nat.not_lt.2 hmakes.1 h
  · rw [if_neg h]
    dsimp only
    rw [mapError_eq_ok_iff, ParameterEntry.ofValue_eq_ok_iff,
      and_iff_right (Nat.not_lt.1 h)]

/-- One turn: there is one parameter more, or one name more that is
unfit. -/
theorem buildAll_cons {name : Json} {names : List Json}
    {made : List Parameter × List Json}
    (hname : template.build name = .ok e)
    (hnames : template.buildAll names = .ok made) :
    template.buildAll (name :: names) = .ok (e.joining name made) := by
  rw [buildAll, hname]
  dsimp only
  rw [hnames]
  unfold ParameterEntry.joining ParameterEntry.query?
  cases e with
  | reference r => rfl
  | parameter p =>
      dsimp only
      by_cases hquery : p.location = .query
      · rw [if_pos hquery, if_pos hquery]
      · rw [if_neg hquery, if_neg hquery]

/-- All names are made into something if the first is and all others
are. -/
theorem buildAll_cons_eq_ok_iff {name : Json} {names : List Json}
    {made : List Parameter × List Json} :
    template.buildAll (name :: names) = .ok made
      ↔ ∃ e rest, template.build name = .ok e
        ∧ template.buildAll names = .ok rest
        ∧ e.joining name rest = made := by
  constructor
  · intro h
    cases hname : template.build name with
    | error f =>
        rw [buildAll, hname] at h
        cases h
    | ok e =>
        cases hnames : template.buildAll names with
        | error f =>
            rw [buildAll, hname, hnames] at h
            cases h
        | ok rest =>
            rw [buildAll_cons hname hnames] at h
            cases h
            exact ⟨e, rest, rfl, rfl, rfl⟩
  · rintro ⟨e, rest, hname, hnames, rfl⟩
    exact buildAll_cons hname hnames

end ParameterTemplate

namespace Document

/-- What an injection does is told by what stands under the route: only a
route described in place has the template make parameters. -/
theorem inject_cases (d : Document) (template : ParameterTemplate)
    (route : String) (names : List Json) :
    d.entry? route = none
        ∧ d.inject template route names = .ok (.skipped route, d)
      ∨ (∃ r, d.entry? route = some (.reference r)
        ∧ d.inject template route names = .ok (.refused route, d))
      ∨ ∃ slot i, d.routes.get? route = some slot ∧ slot.entry = .item i
        ∧ d.entry? route = some (.item i)
        ∧ d.inject template route names
          = (template.buildAll names).map fun made =>
            (.done route (made.1.map (·.name)) made.2, { d with
              paths := d.paths.map
                (·.update slot.number (.append made.1)) }) := by
  unfold Document.inject entry?
  cases found : d.routes.get? route with
  | none => exact .inl ⟨rfl, rfl⟩
  | some slot =>
      dsimp only [Option.map_some]
      cases place : slot.entry with
      | reference r => exact .inr (.inl ⟨r, rfl, rfl⟩)
      | item i =>
          refine .inr (.inr ⟨slot, i, rfl, place, rfl, ?_⟩)
          dsimp only
          cases template.buildAll names <;> rfl

end Document

end ApiMount
