/-
JSON values. Numbers are integers of any size or doubles, and the two
are never confused: `1` and `1.0` print differently. An object keeps
its members as they were written, a repeated key included, because a
route table checks every one of them; `tidy` gives the value that is
kept, where each key stands once.

How many values lie inside each other is the number of `levels`; of these
the arrays and objects alone make up the `nesting`, which is never more
(`nesting_le_levels`).
-/
import ApiMount.Table

namespace ApiMount

/-- A JSON value, as it was written. -/
inductive Json where
  | null
  | bool (b : Bool)
  | int (n : Int)
  | float (x : Float)
  | str (s : String)
  | arr (items : List Json)
  | obj (members : List (String × Json))
  deriving Inhabited, BEq

namespace Json

mutual

/-- The value with every key once in each object: at the place where it
comes first, with the value it has last. -/
def tidy : Json → Json
  | .arr items => .arr (tidyItems items)
  | .obj members => .obj (Table.ofPairs (tidyMembers members))
  | other => other

/-- The tidy form of every item. -/
def tidyItems : List Json → List Json
  | [] => []
  | item :: rest => item.tidy :: tidyItems rest

/-- The tidy form of every member's value; no key is dropped yet. -/
def tidyMembers : List (String × Json) → List (String × Json)
  | [] => []
  | (key, value) :: rest => (key, value.tidy) :: tidyMembers rest

end

/-- The members of an object under distinct keys. -/
def tidyTable (members : List (String × Json)) : Table Json :=
  Table.ofPairs (tidyMembers members)

/-- The value that counts for a key: its last one. -/
def lastOf (members : List (String × Json)) (key : String) :
    Option Json :=
  members.reverse.lookup key

mutual

/-- How many values lie inside each other, the value itself counted. -/
def levels : Json → Nat
  | .arr items => 1 + deepestItem items
  | .obj members => 1 + deepestMember members
  | _ => 1

/-- The most levels of any item. -/
def deepestItem : List Json → Nat
  | [] => 0
  | item :: rest => max item.levels (deepestItem rest)

/-- The most levels of any member's value. -/
def deepestMember : List (String × Json) → Nat
  | [] => 0
  | (_, value) :: rest => max value.levels (deepestMember rest)

end

/-- The deepest member of two lists is the deeper of their deepest. -/
theorem deepestMember_append (s t : List (String × Json)) :
    deepestMember (s ++ t) = max (deepestMember s) (deepestMember t) := by
  induction s with
  | nil => simp [deepestMember]
  | cons head rest ih =>
    obtain ⟨key, value⟩ := head
    simp [deepestMember, ih, Nat.max_assoc]

mutual

/-- How many arrays and objects lie inside each other, the value itself
counted. -/
def nesting : Json → Nat
  | .arr items => 1 + itemNesting items
  | .obj members => 1 + memberNesting members
  | _ => 0

/-- The most nesting of any item. -/
def itemNesting : List Json → Nat
  | [] => 0
  | item :: rest => max item.nesting (itemNesting rest)

/-- The most nesting of any member's value. -/
def memberNesting : List (String × Json) → Nat
  | [] => 0
  | (_, value) :: rest => max value.nesting (memberNesting rest)

end

mutual

/-- A value has no more nesting than levels. -/
theorem nesting_le_levels : (v : Json) → v.nesting ≤ v.levels
  | .null | .bool _ | .int _ | .float _ | .str _ => by
    simp [nesting, levels]
  | .arr items => by
    have := itemNesting_le items
    simp only [nesting, levels]
    omega
  | .obj members => by
    have := memberNesting_le members
    simp only [nesting, levels]
    omega

theorem itemNesting_le : (items : List Json) →
    itemNesting items ≤ deepestItem items
  | [] => Nat.le_refl 0
  | item :: rest => by
    have := item.nesting_le_levels
    have := itemNesting_le rest
    simp only [itemNesting, deepestItem]
    omega

theorem memberNesting_le : (members : List (String × Json)) →
    memberNesting members ≤ deepestMember members
  | [] => Nat.le_refl 0
  | (_, value) :: rest => by
    have := value.nesting_le_levels
    have := memberNesting_le rest
    simp only [memberNesting, deepestMember]
    omega

end

/-- Whether the value is an object. -/
def isObject : Json → Bool
  | .obj _ => true
  | _ => false

/-- Whether the value is an array or an object. -/
def isContainer : Json → Bool
  | .arr _ | .obj _ => true
  | _ => false

/-- Whether the value counts as nothing: null, false, zero, or empty. -/
def isNothing : Json → Bool
  | .null | .bool false | .int 0 | .str "" | .arr [] | .obj [] => true
  | .float x => x == 0.0
  | _ => false

/-- What going through the value gives, if anything: the items of an
array, the characters of a text, the keys of an object. -/
def elements? : Json → Option (List Json)
  | .arr items => some items
  | .str s => some (s.toList.map fun c => .str (String.ofList [c]))
  | .obj members => some ((tidyTable members).keys.map .str)
  | _ => none

end Json

end ApiMount
