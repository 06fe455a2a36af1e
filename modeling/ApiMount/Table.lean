/-
Tables: keyed values in an order that answers show. A key keeps the
place where it was first put, and takes the value it was put with last.

A table is a list of pairs, so that printing, mapping and filtering are
those of lists. `ofPairs` turns any list of pairs into a table, and does
nothing to one whose keys are already distinct (`ofPairs_eq_self`).
-/

namespace ApiMount

/-- Keyed values in the order in which their keys were first put. -/
abbrev Table (α : Type _) := List (String × α)

namespace Table

variable {α β : Type _}

/-- The keys, in order. -/
def keys (t : Table α) : List String := t.map Prod.fst

/-- The value under a key. -/
def get? (t : Table α) (key : String) : Option α := t.lookup key

/-- Whether a key is in the table. -/
def has (t : Table α) (key : String) : Bool := t.any (·.1 == key)

/-- Puts a value under a key: in place if the key is there, else at the
end. -/
def put : Table α → String → α → Table α
  | [], key, value => [(key, value)]
  | (k, v) :: rest, key, value =>
    if k = key then (k, value) :: rest else (k, v) :: put rest key value

/-- Leaves out a key. -/
def without (t : Table α) (key : String) : Table α :=
  t.filter (·.1 != key)

/-- The table that a list of pairs makes when each is put in turn. -/
def ofPairs (pairs : List (String × α)) : Table α :=
  pairs.foldl (fun t pair => put t pair.1 pair.2) []

/-- Applies a function to every value. -/
def mapValues (f : α → β) (t : Table α) : Table β :=
  t.map fun pair => (pair.1, f pair.2)

-- ================================================== what operations do

@[simp] theorem keys_nil : keys ([] : Table α) = [] := rfl

@[simp] theorem keys_cons (key : String) (value : α) (t : Table α) :
    keys ((key, value) :: t) = key :: keys t := rfl

@[simp] theorem keys_append (s t : Table α) :
    keys (s ++ t) = keys s ++ keys t := List.map_append

/-- Changing the values leaves the keys and their order. -/
@[simp] theorem keys_mapValues (f : α → β) (t : Table α) :
    keys (mapValues f t) = keys t := by
  simp [keys, mapValues]

/-- A key that is there is replaced in place, a new one comes last. -/
theorem keys_put (t : Table α) (key : String) (value : α) :
    keys (put t key value)
      = if key ∈ keys t then keys t else keys t ++ [key] := by
  induction t with
  | nil => simp [put]
  | cons head rest ih =>
    obtain ⟨k, v⟩ := head
    by_cases h : k = key
    · simp [put, h]
    · have h' : ¬ key = k := fun e => h e.symm
      by_cases hr : key ∈ keys rest <;> simp [put, h, h', hr, ih]

/-- Putting a new key appends. -/
theorem put_of_not_mem {t : Table α} {key : String} (value : α)
    (h : key ∉ keys t) : put t key value = t ++ [(key, value)] := by
  induction t with
  | nil => rfl
  | cons head rest ih =>
    obtain ⟨k, v⟩ := head
    simp only [keys_cons, List.mem_cons, not_or] at h
    simp [put, Ne.symm h.1, ih h.2]

/-- Pairs under new, distinct keys are put at the end, in their order. -/
private theorem foldl_put_of_nodup (pairs t : List (String × α))
    (h : (keys (t ++ pairs)).Nodup) :
    pairs.foldl (fun t pair => put t pair.1 pair.2) t = t ++ pairs := by
  induction pairs generalizing t with
  | nil => simp
  | cons head rest ih =>
    obtain ⟨k, v⟩ := head
    have hk : k ∉ keys t := by
      simp only [keys_append, keys_cons] at h
      have := (List.nodup_append.1 h).2.2
      intro hmem
      exact this k hmem k (by simp) rfl
    rw [List.foldl_cons, put_of_not_mem v hk, ih]
    · simp
    · simpa using h

/-- A list of pairs with distinct keys is already the table it makes. -/
theorem ofPairs_eq_self {pairs : List (String × α)}
    (h : (keys pairs).Nodup) : ofPairs pairs = pairs := by
  simpa [ofPairs] using foldl_put_of_nodup pairs [] (by simpa using h)

/-- A table never holds a key twice. -/
theorem nodup_keys_put {t : Table α} (h : (keys t).Nodup) (key : String)
    (value : α) : (keys (put t key value)).Nodup := by
  rw [keys_put]
  split
  · exact h
  · next hk =>
    refine List.nodup_append.2 ⟨h, by simp, ?_⟩
    intro a ha b hb
    simp only [List.mem_singleton] at hb
    rintro rfl
    exact hk (hb ▸ ha)

/-- A table made by putting pairs in turn holds no key twice. -/
theorem nodup_keys_ofPairs (pairs : List (String × α)) :
    (keys (ofPairs pairs)).Nodup := by
  unfold ofPairs
  generalize ht : ([] : Table α) = t
  have hn : (keys t).Nodup := by subst ht; simp
  clear ht
  induction pairs generalizing t with
  | nil => exact hn
  | cons head rest ih => exact ih _ (nodup_keys_put hn _ _)

end Table

end ApiMount
