/-
Which values are written out. A loose value is written exactly if it is
within the room that there is for it, whatever characters stand in the
places of its halves (`Loose.overrun?_eq_none_iff`), and then its written
form is the printer's (`Loose.writeWithin_eq_ok`).

The argument goes along the value. An array or an object takes up one of
the room, and what is left is the room of its parts.
-/
import ApiMount.Proofs.Json.Inline.Values
import ApiMount.Proofs.Json.Written

namespace ApiMount.Json

open Text

-- ============================================================== within

section

variable {n : Nat} {items : List Json} {members : List (String × Json)}

/-- What has no parts takes up no room. -/
theorem within_of_isShort (v : Json) (n : Nat) (hnesting : v.nesting = 0)
    (hshort : v.Throughout IsShort) : v.Within n :=
  ⟨hnesting ▸ Nat.zero_le n, hshort⟩

/-- An array takes up one of the room, and its items have the rest. -/
theorem within_arr_iff :
    (Json.arr items).Within (n + 1) ↔ ∀ item ∈ items, item.Within n := by
  constructor
  · exact Within.items
  · intro h
    constructor
    · have hitems : itemNesting items ≤ n :=
        itemNesting_le_iff.2 fun item hitem => (h item hitem).nesting
      rw [Json.nesting]
      omega
    · exact throughout_arr_iff.2
        ⟨trivial, fun item hitem => (h item hitem).short⟩

/-- So does an object, and its members' values have the rest. -/
theorem within_obj_iff :
    (Json.obj members).Within (n + 1)
      ↔ ∀ member ∈ members, member.2.Within n := by
  constructor
  · exact Within.members
  · intro h
    constructor
    · have hmembers : memberNesting members ≤ n :=
        memberNesting_le_iff.2 fun member hmember =>
          (h member hmember).nesting
      rw [Json.nesting]
      omega
    · exact throughout_obj_iff.2
        ⟨trivial, fun member hmember => (h member hmember).short⟩

theorem not_within_arr : ¬ (Json.arr items).Within 0 := by
  intro h
  have := h.nesting
  rw [Json.nesting] at this
  omega

theorem not_within_obj : ¬ (Json.obj members).Within 0 := by
  intro h
  have := h.nesting
  rw [Json.nesting] at this
  omega

end

-- ============================================================= overruns

namespace Loose

variable {halves : Fin 0x800 → Char}

/-- Of integers, the short ones are written. -/
theorem overrun?_int (room : Nat) (n : Int) :
    (Loose.int n).overrun? 0 room = none ↔ (Json.int n).Within room := by
  have hnot : ¬ room < 0 := Nat.not_lt_zero room
  rw [overrun?, if_neg hnot]
  by_cases h : digitLimit < (digits n.natAbs).length
  · rw [if_pos h]
    refine iff_of_false nofun ?_
    intro hwithin
    exact absurd h (Nat.not_lt.2 hwithin.short)
  · rw [if_neg h]
    exact iff_of_true rfl (within_of_isShort _ room rfl (Nat.not_lt.1 h))

mutual

/-- Nothing keeps a value from being written exactly if it is within the
room that there is. -/
theorem overrun?_eq_none_iff : (v : Loose) → ∀ room,
    v.overrun? 0 room = none ↔ (v.filled halves).Within room
  | .null, room | .bool _, room | .float _, room | .str _, room =>
    iff_of_true rfl (within_of_isShort (filled halves _) room rfl trivial)
  | .int n, room => overrun?_int room n
  | .arr _, 0 => iff_of_false nofun not_within_arr
  | .arr items, room + 1 =>
    (itemsOverrun?_eq_none_iff items room).trans within_arr_iff.symm
  | .obj _, 0 => iff_of_false nofun not_within_obj
  | .obj members, room + 1 =>
    (membersOverrun?_eq_none_iff members room).trans within_obj_iff.symm

theorem itemsOverrun?_eq_none_iff : (items : List Loose) → ∀ room,
    itemsOverrun? 0 room items = none
      ↔ ∀ item ∈ filledItems halves items, item.Within room
  | [], _ => iff_of_true rfl fun _ h => nomatch h
  | item :: rest, room => by
    rw [itemsOverrun?, Option.or_eq_none_iff, filledItems,
      List.forall_mem_cons, overrun?_eq_none_iff item room,
      itemsOverrun?_eq_none_iff rest room]

theorem membersOverrun?_eq_none_iff :
    (members : List (LooseText × Loose)) → ∀ room,
    membersOverrun? 0 room members = none
      ↔ ∀ member ∈ filledMembers halves members, member.2.Within room
  | [], _ => iff_of_true rfl fun _ h => nomatch h
  | (_, value) :: rest, room => by
    rw [membersOverrun?, Option.or_eq_none_iff, filledMembers,
      List.forall_mem_cons, overrun?_eq_none_iff value room,
      membersOverrun?_eq_none_iff rest room]

end

variable {room : Nat} {v : Loose}

/-- What is within its room is written as the printer writes it. -/
theorem writeWithin_eq_ok (form : Form)
    (h : (v.filled halves).Within room) :
    v.writeWithin form room = .ok (v.write form) := by
  unfold writeWithin
  rw [(overrun?_eq_none_iff v room).2 h]

/-- What is not is not written. -/
theorem exists_writeWithin_eq_error (form : Form)
    (h : ¬ (v.filled halves).Within room) :
    ∃ o, v.writeWithin form room = .error o := by
  unfold writeWithin
  cases hoverrun : v.overrun? 0 room with
  | none => exact absurd ((overrun?_eq_none_iff v room).1 hoverrun) h
  | some o => exact ⟨o, rfl⟩

/-- An array in an object needs room for two. -/
example : (Loose.obj [(loosen "path", .arr [])]).writeWithin spacedForm 1
    = .error .tooDeep := by
  rfl

end Loose

end ApiMount.Json
