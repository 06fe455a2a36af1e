/-
Which keys of a route table hold one entry. Two keys are linked when the
slots under them have one number. A fresh table links no two keys
(`linked_fresh_iff`), and each operation is said by the links that it
leaves: putting a slot under a key moves that key (`linked_put_iff`),
mounting moves every key (`linked_mount_iff`), leaving a key out leaves
the others (`linked_without_iff`), and changing an entry leaves all
(`linked_update_iff`).

Slots carry their entries with them, so one entry is written in as many
slots as there are keys that hold it. In a coherent table they agree: all
slots of one number are the same. Then a change of one entry shows under
the linked keys and under no others (`entryUnder_update`).
-/
import ApiMount.Document.Mandatory
import ApiMount.Proofs.Table

namespace ApiMount.Routes

open Table

variable {routes : Routes} {key a b c : String} {slot : Slot} {n : Nat}

-- =============================================================== numbers

/-- The number of the slot under a key. -/
def number? (routes : Routes) (key : String) : Option Nat :=
  (routes.get? key).map Slot.number

/-- The entry under a key. -/
def entryUnder (routes : Routes) (key : String) : Option PathEntry :=
  (routes.get? key).map Slot.entry

theorem number?_eq_some_iff :
    routes.number? key = some n
      ↔ ∃ slot, routes.get? key = some slot ∧ slot.number = n :=
  Option.map_eq_some_iff

theorem entryUnder_eq_some_iff {e : PathEntry} :
    routes.entryUnder key = some e
      ↔ ∃ slot, routes.get? key = some slot ∧ slot.entry = e :=
  Option.map_eq_some_iff

/-- A slot put under a key brings its number along. -/
theorem number?_put (routes : Routes) (target : String) (slot : Slot)
    (key : String) :
    number? (put routes target slot) key
      = if key = target then some slot.number else routes.number? key := by
  unfold number?
  rw [get?_put]
  by_cases h : key = target
  · rw [if_pos h, if_pos h]
    rfl
  · rw [if_neg h, if_neg h]

/-- An update changes the entries of its number, under whatever keys they
stand. -/
theorem get?_update (n : Nat) (f : PathEntry → PathEntry)
    (routes : Routes) (key : String) :
    get? (update n f routes) key
      = (routes.get? key).map fun slot =>
          if slot.number = n then { slot with entry := f slot.entry }
          else slot :=
  get?_mapValues _ routes key

/-- Changing an entry changes no number. -/
theorem number?_update (n : Nat) (f : PathEntry → PathEntry)
    (routes : Routes) (key : String) :
    (update n f routes).number? key = routes.number? key := by
  unfold number?
  rw [get?_update, Option.map_map]
  refine congrArg (Option.map · (routes.get? key)) (funext fun slot => ?_)
  show (if slot.number = n then { slot with entry := f slot.entry }
    else slot).number = slot.number
  by_cases h : slot.number = n
  · rw [if_pos h]
  · rw [if_neg h]

theorem le_of_mem_fresh {number : Nat} {t : Table PathEntry}
    {pair : String × Slot} (h : pair ∈ fresh number t) :
    number ≤ pair.2.number := by
  induction t generalizing number with
  | nil => cases h
  | cons head rest ih =>
      obtain ⟨key, entry⟩ := head
      rcases List.mem_cons.1 h with rfl | hrest
      · exact Nat.le_refl number
      · exact Nat.le_of_succ_le (ih hrest)

/-- Fresh slots are numbered upwards from the start. -/
theorem number?_fresh_le {t : Table PathEntry} {start : Nat}
    (h : (fresh start t).number? key = some n) : start ≤ n := by
  obtain ⟨slot, hslot, rfl⟩ := number?_eq_some_iff.1 h
  exact le_of_mem_fresh (mem_of_get?_eq_some hslot)

/-- Every slot of a fresh table has a number of its own. -/
theorem eq_of_number?_fresh {t : Table PathEntry} {start : Nat}
    (ha : (fresh start t).number? a = some n)
    (hb : (fresh start t).number? b = some n) : a = b := by
  induction t generalizing start with
  | nil => cases ha
  | cons head rest ih =>
      obtain ⟨k, entry⟩ := head
      -- the first number stands nowhere else
      have hrest {x : String}
          (hx : (fresh (start + 1) rest).number? x = some n) :
          start < n := number?_fresh_le hx
      unfold number? at ha hb
      rw [fresh, get?_cons] at ha hb
      by_cases hak : a = k
      · rw [if_pos hak] at ha
        cases ha
        by_cases hbk : b = k
        · exact hak.trans hbk.symm
        · rw [if_neg hbk] at hb
          exact absurd (hrest hb) (Nat.lt_irrefl start)
      · rw [if_neg hak] at ha
        by_cases hbk : b = k
        · rw [if_pos hbk] at hb
          cases hb
          exact absurd (hrest ha) (Nat.lt_irrefl start)
        · rw [if_neg hbk] at hb
          exact ih ha hb

/-- Every key of the table has a number, and no other has. -/
theorem exists_number?_iff :
    (∃ n, routes.number? key = some n) ↔ key ∈ keys routes := by
  unfold number?
  cases h : routes.get? key with
  | none =>
      have hkey : key ∉ keys routes := get?_eq_none_iff.1 h
      constructor
      · intro hn
        obtain ⟨n, hn⟩ := hn
        cases hn
      · exact fun hmem => absurd hmem hkey
  | some slot =>
      exact ⟨fun _ => mem_keys_of_get?_eq_some h, fun _ => ⟨_, rfl⟩⟩

-- ================================================================= links

/-- Both keys are in the table, and they hold one entry. -/
def Linked (routes : Routes) (a b : String) : Prop :=
  ∃ n, routes.number? a = some n ∧ routes.number? b = some n

/-- A key is linked with itself exactly when it is in the table. -/
theorem linked_self_iff : routes.Linked a a ↔ a ∈ keys routes := by
  rw [← exists_number?_iff]
  constructor
  · intro h
    obtain ⟨n, hn, -⟩ := h
    exact ⟨n, hn⟩
  · intro h
    obtain ⟨n, hn⟩ := h
    exact ⟨n, hn, hn⟩

/-- Linked keys are in the table. -/
theorem Linked.mem_keys (h : routes.Linked a b) : b ∈ keys routes := by
  obtain ⟨n, -, hb⟩ := h
  exact exists_number?_iff.1 ⟨n, hb⟩

theorem not_linked_nil : ¬ Linked [] a b := by
  intro h
  cases h.mem_keys

/-- Where a key is found, the keys linked to it are those of the same
number. -/
theorem linked_iff_of_get? (h : routes.get? a = some slot) :
    routes.Linked a b ↔ routes.number? b = some slot.number := by
  have ha : routes.number? a = some slot.number :=
    number?_eq_some_iff.2 ⟨slot, h, rfl⟩
  constructor
  · intro hlinked
    obtain ⟨n, hn, hb⟩ := hlinked
    rw [ha] at hn
    cases hn
    exact hb
  · exact fun hb => ⟨slot.number, ha, hb⟩

/-- Fresh slots link no two keys. -/
theorem linked_fresh_iff {t : Table PathEntry} {start : Nat} :
    (fresh start t).Linked a b ↔ a = b ∧ a ∈ keys (fresh start t) := by
  constructor
  · intro h
    have hmem := h.mem_keys
    obtain ⟨n, ha, hb⟩ := h
    obtain rfl := eq_of_number?_fresh ha hb
    exact ⟨rfl, hmem⟩
  · rintro ⟨rfl, hmem⟩
    exact linked_self_iff.2 hmem

/-- A change of an entry links as before. -/
theorem linked_update_iff {f : PathEntry → PathEntry} :
    (update n f routes).Linked a b ↔ routes.Linked a b := by
  unfold Linked
  simp only [number?_update]

/-- Leaving out a route undoes its own links and no others. -/
theorem linked_without_iff {route : String} :
    Linked (without routes route) a b
      ↔ a ≠ route ∧ b ≠ route ∧ routes.Linked a b := by
  unfold Linked number?
  simp only [get?_without]
  by_cases ha : a = route
  · simp [ha]
  · by_cases hb : b = route
    · simp [hb]
    · simp [ha, hb]

/-- A key that is given the slot of another one stands where that one
stands. -/
theorem linked_put_iff {route target : String}
    (h : routes.get? route = some slot) :
    Linked (put routes target slot) a b
      ↔ routes.Linked (if a = target then route else a)
        (if b = target then route else b) := by
  have hroute : routes.number? route = some slot.number :=
    number?_eq_some_iff.2 ⟨slot, h, rfl⟩
  have hput (key : String) : number? (put routes target slot) key
      = routes.number? (if key = target then route else key) := by
    rw [number?_put]
    by_cases hk : key = target
    · rw [if_pos hk, if_pos hk, hroute]
    · rw [if_neg hk, if_neg hk]
  unfold Linked
  rw [hput a, hput b]

/-- Mounted routes are linked as they were under their old keys. -/
theorem linked_mount_iff {base : String} :
    Linked (mount base routes) a b
      ↔ ∃ c d, a = base ++ c ∧ b = base ++ d ∧ routes.Linked c d := by
  -- a path in front of both keys changes nothing, and no other keys are
  -- there
  have hlinked (c d : String) :
      Linked (mount base routes) (base ++ c) (base ++ d)
        ↔ routes.Linked c d := by
    unfold Linked number?
    rw [get?_mount, get?_mount]
  constructor
  · intro h
    have hb := h.mem_keys
    obtain ⟨n, ha, -⟩ := id h
    have ha := exists_number?_iff.1 ⟨n, ha⟩
    obtain ⟨c, rfl⟩ := exists_of_mem_keys_mount ha
    obtain ⟨d, rfl⟩ := exists_of_mem_keys_mount hb
    exact ⟨c, d, rfl, rfl, (hlinked c d).1 h⟩
  · rintro ⟨c, d, rfl, rfl, h⟩
    exact (hlinked c d).2 h

-- ============================================================= coherence

/-- Slots of one number are the same slot. -/
def Coherent (routes : Routes) : Prop :=
  ∀ a b s t, routes.get? a = some s → routes.get? b = some t →
    s.number = t.number → s = t

theorem coherent_nil : Coherent [] := by
  intro a b s t ha
  cases ha

/-- Linked keys hold the same slot. -/
theorem Coherent.get?_eq (h : routes.Coherent) (hl : routes.Linked a b) :
    ∃ slot, routes.get? a = some slot ∧ routes.get? b = some slot := by
  obtain ⟨n, ha, hb⟩ := hl
  obtain ⟨s, hs, hsn⟩ := number?_eq_some_iff.1 ha
  obtain ⟨t, ht, htn⟩ := number?_eq_some_iff.1 hb
  obtain rfl := h a b s t hs ht (hsn.trans htn.symm)
  exact ⟨s, hs, ht⟩

/-- Linked keys hold the same entry. -/
theorem Coherent.entryUnder_eq (h : routes.Coherent)
    (found : routes.get? a = some slot) (hl : routes.Linked a b) :
    routes.entryUnder b = some slot.entry := by
  obtain ⟨s, hs, hb⟩ := h.get?_eq hl
  rw [found] at hs
  cases hs
  exact entryUnder_eq_some_iff.2 ⟨slot, hb, rfl⟩

/-- Fresh slots are all different, so they are coherent. -/
theorem coherent_fresh (start : Nat) (t : Table PathEntry) :
    (fresh start t).Coherent := by
  intro a b s u ha hb hn
  have hsame : a = b :=
    eq_of_number?_fresh (number?_eq_some_iff.2 ⟨s, ha, hn⟩)
      (number?_eq_some_iff.2 ⟨u, hb, rfl⟩)
  rw [hsame, hb] at ha
  exact (Option.some.inj ha).symm

/-- What a coherent table holds under other keys is coherent too. -/
theorem Coherent.of_get? {after : Routes} (h : routes.Coherent)
    (hsub : ∀ key slot, after.get? key = some slot →
      ∃ old, routes.get? old = some slot) : after.Coherent := by
  intro a b s t ha hb hn
  obtain ⟨c, hc⟩ := hsub a s ha
  obtain ⟨d, hd⟩ := hsub b t hb
  exact h c d s t hc hd hn

/-- Leaving out a route keeps the table coherent. -/
theorem Coherent.without (h : routes.Coherent) (route : String) :
    Coherent (without routes route) := by
  refine h.of_get? fun key slot hk => ?_
  rw [get?_without] at hk
  by_cases hr : key = route
  · rw [if_pos hr] at hk
    cases hk
  · rw [if_neg hr] at hk
    exact ⟨key, hk⟩

/-- A slot of the table may be put under another key. -/
theorem Coherent.put (h : routes.Coherent) {route : String}
    (hr : routes.get? route = some slot) (target : String) :
    Coherent (put routes target slot) := by
  refine h.of_get? fun key found hk => ?_
  rw [get?_put] at hk
  by_cases ht : key = target
  · rw [if_pos ht] at hk
    cases hk
    exact ⟨route, hr⟩
  · rw [if_neg ht] at hk
    exact ⟨key, hk⟩

/-- Moving the keys keeps the table coherent. -/
theorem Coherent.mount (h : routes.Coherent) (base : String) :
    Coherent (mount base routes) := by
  refine h.of_get? fun key slot hk => ?_
  obtain ⟨old, rfl⟩ :=
    exists_of_mem_keys_mount (mem_keys_of_get?_eq_some hk)
  rw [get?_mount] at hk
  exact ⟨old, hk⟩

/-- A change reaches all slots of one number alike. -/
theorem Coherent.update (h : routes.Coherent) (n : Nat)
    (f : PathEntry → PathEntry) : (update n f routes).Coherent := by
  intro a b s t ha hb hn
  rw [get?_update] at ha hb
  obtain ⟨s', hs', rfl⟩ := Option.map_eq_some_iff.1 ha
  obtain ⟨t', ht', rfl⟩ := Option.map_eq_some_iff.1 hb
  have hsame : s'.number = t'.number := by
    split at hn <;> split at hn <;> exact hn
  rw [h a b s' t' hs' ht' hsame]

/-- Changing the entry under a key changes it under the keys linked to
that key, and changes no other. -/
theorem entryUnder_update {f : PathEntry → PathEntry} {route : String}
    (h : routes.get? route = some slot) (key : String) :
    (routes.Linked route key →
        (update slot.number f routes).entryUnder key
          = (routes.entryUnder key).map f)
      ∧ (¬ routes.Linked route key →
        (update slot.number f routes).entryUnder key = routes.entryUnder key) := by
  -- a key linked with the route has the number that is updated
  rw [linked_iff_of_get? h]
  unfold entryUnder number?
  rw [get?_update]
  cases hk : routes.get? key with
  | none => exact ⟨fun _ => rfl, fun _ => rfl⟩
  | some s =>
      constructor
      · intro hn
        have hn : s.number = slot.number := Option.some.inj hn
        rw [Option.map_some, if_pos hn]
        rfl
      · intro hn
        have hn : s.number ≠ slot.number := fun e => hn (congrArg some e)
        rw [Option.map_some, if_neg hn]

/-- Parameters that are appended to the entry under a key stand at the
end of it under every linked key. -/
theorem Coherent.entryUnder_append (h : routes.Coherent)
    {route : String} {i : PathItem} (found : routes.get? route = some slot)
    (inPlace : slot.entry = .item i) (added : List Parameter)
    (hl : routes.Linked route key) :
    routes.entryUnder key = some (.item i)
      ∧ (Routes.update slot.number (.append added) routes).entryUnder key
        = some (.item (i.append added)) := by
  have hkey := h.entryUnder_eq found hl
  rw [inPlace] at hkey
  refine ⟨hkey, ?_⟩
  rw [(entryUnder_update found key).1 hl, hkey]
  rfl

end ApiMount.Routes
