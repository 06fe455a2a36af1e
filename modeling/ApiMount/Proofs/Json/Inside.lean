/-
What holds of a value and of everything inside it. `Throughout p` says
that `p` holds all the way down; two such properties matter here. A value
is `Distinct` when no object in it holds a key twice: it is its own tidy
form then (`tidy_of_distinct`), and a tidy form always is
(`distinct_tidy`). It `Fits` in a number of levels when its numbers are
whole and short enough to be read and no more values than that lie
inside each other.

Both are said of an object or an array by what they say of its parts
(`distinct_obj_iff`, `fits_obj_iff`, `fits_arr_iff`). What needs one level
more than its parts is `Layered`, and no such measure grows when a value
is made tidy (`Layered.tidy`).
-/
import ApiMount.Json.Printer
import ApiMount.Json.Reader
import ApiMount.Proofs.Table

namespace ApiMount.Json

-- =========================================================== all the way

mutual

/-- `p` holds of the value and of every value inside it. -/
def Throughout (p : Json → Prop) : Json → Prop
  | .arr items => p (.arr items) ∧ ThroughoutItems p items
  | .obj members => p (.obj members) ∧ ThroughoutMembers p members
  | other => p other

/-- `p` holds throughout every item. -/
def ThroughoutItems (p : Json → Prop) : List Json → Prop
  | [] => True
  | item :: rest => item.Throughout p ∧ ThroughoutItems p rest

/-- `p` holds throughout every member's value. -/
def ThroughoutMembers (p : Json → Prop) : List (String × Json) → Prop
  | [] => True
  | (_, value) :: rest => value.Throughout p ∧ ThroughoutMembers p rest

end

variable {p : Json → Prop} {v : Json} {items : List Json}
  {members : List (String × Json)}

theorem throughoutItems_iff :
    ThroughoutItems p items ↔ ∀ item ∈ items, item.Throughout p := by
  induction items with
  | nil => simp [ThroughoutItems]
  | cons item rest ih =>
      rw [ThroughoutItems, ih, List.forall_mem_cons]

theorem throughoutMembers_iff :
    ThroughoutMembers p members
      ↔ ∀ member ∈ members, member.2.Throughout p := by
  induction members with
  | nil => simp [ThroughoutMembers]
  | cons member rest ih =>
      obtain ⟨key, value⟩ := member
      rw [ThroughoutMembers, ih, List.forall_mem_cons]

/-- What holds throughout an array: of itself, and throughout its items. -/
theorem throughout_arr_iff :
    (Json.arr items).Throughout p
      ↔ p (.arr items) ∧ ∀ item ∈ items, item.Throughout p := by
  rw [Throughout, throughoutItems_iff]

/-- What holds throughout an object: of itself, and throughout its members'
values. -/
theorem throughout_obj_iff :
    (Json.obj members).Throughout p
      ↔ p (.obj members)
        ∧ ∀ member ∈ members, member.2.Throughout p := by
  rw [Throughout, throughoutMembers_iff]

section

variable [DecidablePred p]

mutual

/-- What can be decided of each value can be decided all the way. -/
def decideThroughout : (v : Json) → Decidable (v.Throughout p)
  | .arr items =>
    have := decideItems items
    inferInstanceAs (Decidable (p (.arr items) ∧ ThroughoutItems p items))
  | .obj members =>
    have := decideMembers members
    inferInstanceAs
      (Decidable (p (.obj members) ∧ ThroughoutMembers p members))
  | .null => inferInstanceAs (Decidable (p .null))
  | .bool b => inferInstanceAs (Decidable (p (.bool b)))
  | .int n => inferInstanceAs (Decidable (p (.int n)))
  | .float x => inferInstanceAs (Decidable (p (.float x)))
  | .str s => inferInstanceAs (Decidable (p (.str s)))

def decideItems : (items : List Json) → Decidable (ThroughoutItems p items)
  | [] => isTrue trivial
  | item :: rest =>
    have := decideThroughout item
    have := decideItems rest
    inferInstanceAs
      (Decidable (item.Throughout p ∧ ThroughoutItems p rest))

def decideMembers : (members : List (String × Json)) →
    Decidable (ThroughoutMembers p members)
  | [] => isTrue trivial
  | (_, value) :: rest =>
    have := decideThroughout value
    have := decideMembers rest
    inferInstanceAs
      (Decidable (value.Throughout p ∧ ThroughoutMembers p rest))

end

instance : Decidable (v.Throughout p) := decideThroughout v

end

-- ============================================================= distinct

/-- An object holds no key twice. -/
def HasDistinctKeys : Json → Prop
  | .obj members => (Table.keys members).Nodup
  | _ => True

instance : DecidablePred HasDistinctKeys
  | .obj members => inferInstanceAs (Decidable (Table.keys members).Nodup)
  | .null | .bool _ | .int _ | .float _ | .str _ | .arr _ =>
    isTrue trivial

/-- No object inside the value holds a key twice. -/
def Distinct (v : Json) : Prop := v.Throughout HasDistinctKeys

instance : Decidable v.Distinct :=
  inferInstanceAs (Decidable (v.Throughout HasDistinctKeys))

/-- An array repeats no key exactly when no item does. -/
theorem distinct_arr_iff :
    (Json.arr items).Distinct ↔ ∀ item ∈ items, item.Distinct := by
  unfold Distinct
  rw [throughout_arr_iff]
  exact and_iff_right trivial

/-- An object repeats no key inside exactly when its own keys are distinct
and no value repeats one. -/
theorem distinct_obj_iff :
    (Json.obj members).Distinct
      ↔ (Table.keys members).Nodup
        ∧ ∀ member ∈ members, member.2.Distinct := by
  unfold Distinct
  rw [throughout_obj_iff]
  rfl

/-- Making the values tidy leaves the keys, repeated ones included. -/
theorem keys_tidyMembers (members : List (String × Json)) :
    Table.keys (tidyMembers members) = Table.keys members := by
  induction members with
  | nil => rfl
  | cons member rest ih =>
      obtain ⟨key, value⟩ := member
      rw [tidyMembers, Table.keys_cons, Table.keys_cons, ih]

mutual

/-- A value that holds no key twice is its own tidy form. -/
theorem tidy_of_distinct : (v : Json) → v.Distinct → v.tidy = v
  | .null, _ | .bool _, _ | .int _, _ | .float _, _ | .str _, _ => rfl
  | .arr items, h => by
    rw [tidy, tidyItems_of_distinct items (distinct_arr_iff.1 h)]
  | .obj members, h => by
    obtain ⟨hn, hm⟩ := distinct_obj_iff.1 h
    rw [tidy, tidyMembers_of_distinct members hm,
      Table.ofPairs_eq_self hn]

theorem tidyItems_of_distinct : (items : List Json) →
    (∀ item ∈ items, item.Distinct) → tidyItems items = items
  | [], _ => rfl
  | item :: rest, h => by
    obtain ⟨hi, hr⟩ := List.forall_mem_cons.1 h
    rw [tidyItems, tidy_of_distinct item hi,
      tidyItems_of_distinct rest hr]

/-- Members whose values hold no key twice are left by it. -/
theorem tidyMembers_of_distinct : (members : List (String × Json)) →
    (∀ member ∈ members, member.2.Distinct) →
    tidyMembers members = members
  | [], _ => rfl
  | (key, value) :: rest, h => by
    obtain ⟨hv, hr⟩ := List.forall_mem_cons.1 h
    rw [tidyMembers, tidy_of_distinct value hv,
      tidyMembers_of_distinct rest hr]

end

mutual

/-- A tidy form holds no key twice. -/
theorem distinct_tidy : (v : Json) → v.tidy.Distinct
  | .null | .bool _ | .int _ | .float _ | .str _ => trivial
  | .arr items => by
    rw [tidy, distinct_arr_iff]
    exact distinct_tidyItems items
  | .obj members => by
    rw [tidy, distinct_obj_iff]
    refine ⟨Table.nodup_keys_ofPairs _, fun member hm => ?_⟩
    exact distinct_tidyMembers members member
      (Table.mem_of_mem_ofPairs hm)

theorem distinct_tidyItems : (items : List Json) →
    ∀ item ∈ tidyItems items, item.Distinct
  | [], _, h => by cases h
  | item :: rest, x, h => by
    rw [tidyItems] at h
    rcases List.mem_cons.1 h with rfl | hr
    · exact distinct_tidy item
    · exact distinct_tidyItems rest x hr

/-- No tidy value of a member holds a key twice; the keys of the members
themselves may be repeated. -/
theorem distinct_tidyMembers : (members : List (String × Json)) →
    ∀ member ∈ tidyMembers members, member.2.Distinct
  | [], _, h => by cases h
  | (key, value) :: rest, x, h => by
    rw [tidyMembers] at h
    rcases List.mem_cons.1 h with rfl | hr
    · exact distinct_tidy value
    · exact distinct_tidyMembers rest x hr

end

/-- A table of members that hold no key twice is those members. -/
theorem tidyTable_of_distinct (h : (Json.obj members).Distinct) :
    tidyTable members = members := by
  obtain ⟨hn, hm⟩ := distinct_obj_iff.1 h
  unfold tidyTable
  rw [tidyMembers_of_distinct members hm, Table.ofPairs_eq_self hn]

/-- Where no key stands twice, the value that counts is the one there. -/
theorem lastOf_eq_get? (hn : (Table.keys members).Nodup) (key : String) :
    lastOf members key = Table.get? members key :=
  Table.lookup_reverse hn key

-- ================================================================ fits

/-- Of numbers, only a whole one. -/
def IsWhole : Json → Prop
  | .float _ => False
  | _ => True

instance : DecidablePred IsWhole
  | .float _ => isFalse id
  | .null | .bool _ | .int _ | .str _ | .arr _ | .obj _ => isTrue trivial

/-- Of whole numbers, only one with no more digits than are read. -/
def IsShort : Json → Prop
  | .int n => (digits n.natAbs).length ≤ Reader.wholeLimit
  | _ => True

instance : DecidablePred IsShort
  | .int n => inferInstanceAs
    (Decidable ((digits n.natAbs).length ≤ Reader.wholeLimit))
  | .null | .bool _ | .float _ | .str _ | .arr _ | .obj _ => isTrue trivial

/-- No more than so many values lie inside each other, and all numbers
are whole and short. -/
structure Fits (n : Nat) (v : Json) : Prop where
  levels : v.levels ≤ n
  whole : v.Throughout IsWhole
  short : v.Throughout IsShort

variable {n : Nat}

/-- A value fits when it is not too deep and all its numbers can be
read. -/
theorem fits_iff :
    v.Fits n
      ↔ v.levels ≤ n ∧ v.Throughout IsWhole ∧ v.Throughout IsShort :=
  ⟨fun h => ⟨h.levels, h.whole, h.short⟩, fun h => ⟨h.1, h.2.1, h.2.2⟩⟩

instance : Decidable (v.Fits n) := decidable_of_iff' _ fits_iff

theorem deepestItem_le_iff :
    deepestItem items ≤ n ↔ ∀ item ∈ items, item.levels ≤ n := by
  induction items with
  | nil => simp [deepestItem]
  | cons item rest ih =>
      rw [deepestItem, Nat.max_le, ih, List.forall_mem_cons]

theorem deepestMember_le_iff :
    deepestMember members ≤ n
      ↔ ∀ member ∈ members, member.2.levels ≤ n := by
  induction members with
  | nil => simp [deepestMember]
  | cons member rest ih =>
      obtain ⟨key, value⟩ := member
      rw [deepestMember, Nat.max_le, ih, List.forall_mem_cons]

/-- An array needs one level more than its items. -/
theorem levels_arr_le_iff :
    (Json.arr items).levels ≤ n + 1 ↔ ∀ item ∈ items, item.levels ≤ n := by
  rw [← deepestItem_le_iff, Json.levels]
  omega

/-- An object needs one level more than its members' values. -/
theorem levels_obj_le_iff :
    (Json.obj members).levels ≤ n + 1
      ↔ ∀ member ∈ members, member.2.levels ≤ n := by
  rw [← deepestMember_le_iff, Json.levels]
  omega

/-- An array fits exactly when its items fit one level further down. -/
theorem fits_arr_iff :
    (Json.arr items).Fits (n + 1) ↔ ∀ item ∈ items, item.Fits n := by
  constructor
  · intro h item hm
    obtain ⟨levels, whole, short⟩ := h
    exact ⟨levels_arr_le_iff.1 levels item hm,
      (throughout_arr_iff.1 whole).2 item hm,
      (throughout_arr_iff.1 short).2 item hm⟩
  · intro h
    exact ⟨levels_arr_le_iff.2 fun item hm => (h item hm).levels,
      throughout_arr_iff.2 ⟨trivial, fun item hm => (h item hm).whole⟩,
      throughout_arr_iff.2 ⟨trivial, fun item hm => (h item hm).short⟩⟩

/-- An object fits exactly when its members' values fit one level further
down. -/
theorem fits_obj_iff :
    (Json.obj members).Fits (n + 1)
      ↔ ∀ member ∈ members, member.2.Fits n := by
  constructor
  · intro h member hm
    obtain ⟨levels, whole, short⟩ := h
    exact ⟨levels_obj_le_iff.1 levels member hm,
      (throughout_obj_iff.1 whole).2 member hm,
      (throughout_obj_iff.1 short).2 member hm⟩
  · intro h
    exact ⟨levels_obj_le_iff.2 fun x hm => (h x hm).levels,
      throughout_obj_iff.2 ⟨trivial, fun x hm => (h x hm).whole⟩,
      throughout_obj_iff.2 ⟨trivial, fun x hm => (h x hm).short⟩⟩

theorem fits_bool (b : Bool) : (Json.bool b).Fits (n + 1) :=
  ⟨Nat.succ_le_succ (Nat.zero_le n), trivial, trivial⟩

theorem fits_str (s : String) : (Json.str s).Fits (n + 1) :=
  ⟨Nat.succ_le_succ (Nat.zero_le n), trivial, trivial⟩

/-- Every value takes a level, those without parts included. -/
theorem levels_pos (v : Json) : 0 < v.levels := by
  cases v <;> simp only [Json.levels] <;> omega

/-- Nothing fits in no level at all. -/
theorem Fits.pos (h : v.Fits n) : 0 < n :=
  Nat.lt_of_lt_of_le v.levels_pos h.levels

-- ============================================================== layered

/-- A measure of the room that values need, layer by layer: a container
needs one level more than its parts, and a flag no more than one. -/
structure Layered (P : Nat → Json → Prop) : Prop where
  pos : ∀ {n v}, P n v → 0 < n
  bool : ∀ {n} b, P (n + 1) (.bool b)
  arr_iff : ∀ {n items}, P (n + 1) (.arr items) ↔ ∀ item ∈ items, P n item
  obj_iff : ∀ {n members},
    P (n + 1) (.obj members) ↔ ∀ member ∈ members, P n member.2

/-- Fitting in a number of levels is layered. -/
theorem layered_fits : Layered fun n v => v.Fits n :=
  ⟨Fits.pos, fits_bool, fits_arr_iff, fits_obj_iff⟩

theorem layered_levels : Layered fun n v => v.levels ≤ n :=
  ⟨fun {_ v} => Nat.lt_of_lt_of_le v.levels_pos,
    fun {n} _ => Nat.succ_le_succ (Nat.zero_le n), levels_arr_le_iff,
    levels_obj_le_iff⟩

namespace Layered

variable {P : Nat → Json → Prop}

mutual

/-- A tidy form needs no more room. -/
theorem tidy (hP : Layered P) : (v : Json) → {n : Nat} → P n v →
    P n v.tidy
  | .null, _, h | .bool _, _, h | .int _, _, h | .float _, _, h
  | .str _, _, h => h
  | .arr items, n, h => by
    obtain ⟨m, rfl⟩ := Nat.exists_eq_add_one.2 (hP.pos h)
    rw [Json.tidy, hP.arr_iff]
    exact hP.tidyItems items (hP.arr_iff.1 h)
  | .obj members, n, h => by
    obtain ⟨m, rfl⟩ := Nat.exists_eq_add_one.2 (hP.pos h)
    rw [Json.tidy, hP.obj_iff]
    intro member hm
    exact hP.tidyMembers members (hP.obj_iff.1 h) member
      (Table.mem_of_mem_ofPairs hm)

theorem tidyItems (hP : Layered P) : (items : List Json) → {n : Nat} →
    (∀ item ∈ items, P n item) → ∀ item ∈ Json.tidyItems items, P n item
  | [], _, _ => List.forall_mem_nil _
  | item :: rest, _, h => by
    obtain ⟨hi, hr⟩ := List.forall_mem_cons.1 h
    rw [Json.tidyItems]
    exact List.forall_mem_cons.2 ⟨hP.tidy item hi, hP.tidyItems rest hr⟩

/-- What holds of the members' values holds of the tidy ones. -/
theorem tidyMembers (hP : Layered P) : (members : List (String × Json)) →
    {n : Nat} → (∀ member ∈ members, P n member.2) →
    ∀ member ∈ Json.tidyMembers members, P n member.2
  | [], _, _ => List.forall_mem_nil _
  | (_, value) :: rest, _, h => by
    obtain ⟨hv, hr⟩ := List.forall_mem_cons.1 h
    rw [Json.tidyMembers]
    exact List.forall_mem_cons.2
      ⟨hP.tidy value hv, hP.tidyMembers rest hr⟩

end

/-- A table of members needs no more room than the members. -/
theorem tidyTable (hP : Layered P) (h : ∀ m ∈ members, P n m.2) :
    ∀ m ∈ Json.tidyTable members, P n m.2 := by
  intro m hm
  exact hP.tidyMembers members h m (Table.mem_of_mem_ofPairs hm)

end Layered

end ApiMount.Json
