/-
References in the values of a settings file. `${NAME}` stands for the
value of a name, `${NAME:-other}` for the same or else for `other`. A
name means what an earlier entry of the file gave it, and if none did,
its value in the environment; an earlier entry without a value means the
empty text.

A dollar that begins no complete reference stands for itself. What is
filled in is not looked through again.
-/
import ApiMount.Settings.SettingsFile
import ApiMount.Table

namespace ApiMount.Substitution

-- ========================================================== references

/-- A name, and what stands in for it. -/
structure Reference where
  name : String
  instead : String
  deriving DecidableEq, Repr

/-- Reads a reference after its dollar; gives it with the text after
it. -/
def reference? (s : List Char) : Option (Reference × List Char) :=
  match s with
  | '\x7b' :: body =>
    let isNameChar (c : Char) : Bool := c != '\x7d' && c != ':'
    let name := String.ofList (body.takeWhile isNameChar)
    match body.dropWhile isNameChar with
    | '\x7d' :: after => some (⟨name, ""⟩, after)
    | ':' :: '-' :: rest =>
      let instead := String.ofList (rest.takeWhile (· != '\x7d'))
      match rest.dropWhile (· != '\x7d') with
      | _ :: after => some (⟨name, instead⟩, after)
      | [] => none
    | _ => none
  | _ => none

private theorem length_dropWhile_le (p : Char → Bool) (l : List Char) :
    (l.dropWhile p).length ≤ l.length := by
  induction l with
  | nil => simp
  | cons c l ih =>
    by_cases h : p c <;> simp [h]
    omega

/-- A reference takes a part of the text. -/
theorem length_lt_of_reference? {s after : List Char} {r : Reference}
    (h : reference? s = some (r, after)) : after.length < s.length := by
  unfold reference? at h
  split at h
  · next body =>
    have hb := length_dropWhile_le (fun c => c != '\x7d' && c != ':') body
    dsimp only at h
    split at h
    · next rest he =>
      cases h
      rw [he] at hb
      simp only [List.length_cons] at hb ⊢
      omega
    · next rest he =>
      have hr := length_dropWhile_le (· != '\x7d') rest
      rw [he] at hb
      split at h
      · next last he' =>
        cases h
        rw [he'] at hr
        simp only [List.length_cons] at hb hr ⊢
        omega
      · cases h
    · cases h
  · cases h

/-- The text with every reference filled in. -/
def fill (meaning : Reference → String) (s : List Char) : List Char :=
  match s with
  | [] => []
  | c :: rest =>
    if c = '$' then
      match h : reference? rest with
      | some (r, after) =>
        have := length_lt_of_reference? h
        (meaning r).toList ++ fill meaning after
      | none => c :: fill meaning rest
    else c :: fill meaning rest
termination_by s.length

-- =============================================================== files

/-- What a reference stands for after the given entries, in an
environment. -/
def meaning (environment : Table String)
    (earlier : Table (Option String)) (r : Reference) : String :=
  match earlier.get? r.name with
  | some value? => value?.getD ""
  | none => (environment.get? r.name).getD r.instead

/-- The values that a file's entries give, references filled in. -/
def resolve (environment : Table String)
    (assignments : List SettingsFile.Assignment) :
    Table (Option String) :=
  assignments.foldl (fun earlier (name, value?) =>
    earlier.put name (value?.map fun v =>
      String.ofList (fill (meaning environment earlier) v.toList))) []

end ApiMount.Substitution
