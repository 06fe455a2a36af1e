/-
What is found in a table. A key is found exactly when it is among the
keys (`get?_eq_none_iff`), and in a table that holds no key twice the
member found under a key is the only one there (`get?_eq_some_iff`).
Each operation that writes is then said by what is found after it:
`get?_put`, `get?_filter`, `get?_mapValues`.
-/
import ApiMount.Document.Mount
import ApiMount.Table

namespace ApiMount.Table

variable {α β : Type _} {t : Table α} {key k : String} {value : α}

-- ============================================================= finding

/-- The first member answers for its key and hides any later one. -/
theorem get?_cons (k : String) (value : α) (t : Table α) (key : String) :
    get? ((k, value) :: t) key
      = if key = k then some value else get? t key := by
  unfold get?
  by_cases h : key = k
  · rw [if_pos h, h, List.lookup_cons_self]
  · rw [if_neg h, List.lookup_cons, beq_eq_false_iff_ne.2 h]

theorem get?_append (s t : Table α) (key : String) :
    get? (s ++ t) key = (get? s key).or (get? t key) :=
  List.lookup_append

/-- A key stands there exactly with some value. -/
theorem mem_keys_iff : key ∈ keys t ↔ ∃ value, (key, value) ∈ t := by
  unfold keys
  rw [List.mem_map]
  constructor
  · intro h
    obtain ⟨⟨k, value⟩, hmem, rfl⟩ := h
    exact ⟨value, hmem⟩
  · intro h
    obtain ⟨value, hmem⟩ := h
    exact ⟨(key, value), hmem, rfl⟩

theorem mem_keys_of_mem (h : (key, value) ∈ t) : key ∈ keys t :=
  mem_keys_iff.2 ⟨value, h⟩

/-- Nothing is found under a key exactly when it is not there. -/
theorem get?_eq_none_iff : get? t key = none ↔ key ∉ keys t := by
  induction t with
  | nil => simp [get?]
  | cons head rest ih =>
      obtain ⟨k, v⟩ := head
      rw [get?_cons, keys_cons, List.mem_cons]
      by_cases h : key = k
      · rw [if_pos h]
        simp [h]
      · rw [if_neg h, ih]
        simp [h]

/-- What is found under a key is a member of the table. -/
theorem mem_of_get?_eq_some (h : get? t key = some value) :
    (key, value) ∈ t := by
  induction t with
  | nil => simp [get?] at h
  | cons head rest ih =>
      obtain ⟨k, v⟩ := head
      rw [get?_cons] at h
      by_cases hk : key = k
      · rw [if_pos hk] at h
        injection h with hv
        rw [hk, hv]
        exact List.mem_cons_self
      · rw [if_neg hk] at h
        exact List.mem_cons_of_mem _ (ih h)

theorem mem_keys_of_get?_eq_some (h : get? t key = some value) :
    key ∈ keys t :=
  mem_keys_of_mem (mem_of_get?_eq_some h)

/-- Where no key stands twice, what is found is what is there. -/
theorem get?_eq_some_iff (hn : (keys t).Nodup) :
    get? t key = some value ↔ (key, value) ∈ t := by
  refine ⟨mem_of_get?_eq_some, fun h => ?_⟩
  induction t with
  | nil => cases h
  | cons head rest ih =>
      obtain ⟨k, v⟩ := head
      rw [keys_cons, List.nodup_cons] at hn
      rw [get?_cons]
      rcases List.mem_cons.1 h with heq | hrest
      · injection heq with hk hv
        rw [if_pos hk, hv]
      · have hne : key ≠ k := by
          rintro rfl
          exact hn.1 (mem_keys_of_mem hrest)
        rw [if_neg hne]
        exact ih hn.2 hrest

/-- Where no key stands twice, looking from the end finds the same. -/
theorem lookup_reverse (hn : (keys t).Nodup) (key : String) :
    t.reverse.lookup key = get? t key := by
  have hr : (keys t.reverse).Nodup := by
    unfold keys
    rw [List.map_reverse]
    exact List.pairwise_reverse.2 (hn.imp Ne.symm)
  refine Option.ext fun value => ?_
  show get? t.reverse key = some value ↔ get? t key = some value
  rw [get?_eq_some_iff hr, get?_eq_some_iff hn, List.mem_reverse]

/-- Whether a key is there can be asked of the table. -/
theorem has_iff : has t key = true ↔ key ∈ keys t := by
  unfold has
  rw [List.any_eq_true, mem_keys_iff]
  constructor
  · intro h
    obtain ⟨⟨k, value⟩, hmem, heq⟩ := h
    have hk : k = key := eq_of_beq heq
    exact ⟨value, hk ▸ hmem⟩
  · intro h
    obtain ⟨value, hmem⟩ := h
    exact ⟨(key, value), hmem, beq_self_eq_true key⟩

theorem has_eq_false_iff : has t key = false ↔ get? t key = none := by
  rw [← Bool.not_eq_true, has_iff, get?_eq_none_iff]

-- ===================================================== after operations

/-- Leaving out by key leaves what is found under the other keys. -/
theorem get?_filter (p : String → Bool) (t : Table α) (key : String) :
    get? (t.filter fun pair => p pair.1) key
      = if p key then get? t key else none := by
  induction t with
  | nil => simp [get?]
  | cons head rest ih =>
      obtain ⟨k, v⟩ := head
      rw [get?_cons, List.filter_cons]
      by_cases hp : p k
      · rw [if_pos hp, get?_cons, ih]
        by_cases h : key = k
        · rw [if_pos h, if_pos h, h, if_pos hp]
        · rw [if_neg h, if_neg h]
      · rw [if_neg hp, ih]
        by_cases h : key = k
        · rw [h, if_neg hp, if_neg hp]
        · rw [if_neg h]

theorem keys_filter (p : String → Bool) (t : Table α) :
    keys (t.filter fun pair => p pair.1) = (keys t).filter p := by
  unfold keys
  rw [List.filter_map]
  rfl

/-- The keys that are left when some are left out. -/
theorem mem_keys_rest {names : List String} :
    key ∈ keys (t.filter fun pair => !names.contains pair.1)
      ↔ key ∈ keys t ∧ key ∉ names := by
  rw [keys_filter fun key => !names.contains key, List.mem_filter,
    Bool.not_eq_true', ← Bool.not_eq_true, List.contains_iff_mem]

theorem nodup_keys_filter (p : String × α → Bool)
    (hn : (keys t).Nodup) : (keys (t.filter p)).Nodup :=
  (List.filter_sublist.map Prod.fst).nodup hn

/-- What is found after every value is changed is the changed value. -/
theorem get?_mapValues (f : α → β) (t : Table α) (key : String) :
    get? (mapValues f t) key = (get? t key).map f := by
  induction t with
  | nil => rfl
  | cons head rest ih =>
      obtain ⟨k, v⟩ := head
      show get? ((k, f v) :: mapValues f rest) key = _
      rw [get?_cons, get?_cons, ih]
      by_cases h : key = k
      · rw [if_pos h, if_pos h]
        rfl
      · rw [if_neg h, if_neg h]

/-- After a value is put under a key it is found there, and under any other
key what was found before. -/
theorem get?_put (t : Table α) (k : String) (value : α) (key : String) :
    get? (put t k value) key
      = if key = k then some value else get? t key := by
  induction t with
  | nil => exact get?_cons k value [] key
  | cons head rest ih =>
      obtain ⟨l, v⟩ := head
      rw [put]
      -- the key is put here or further on
      by_cases hl : l = k
      · rw [if_pos hl, get?_cons, get?_cons, hl]
        by_cases h : key = k
        · rw [if_pos h, if_pos h]
        · rw [if_neg h, if_neg h, if_neg h]
      · rw [if_neg hl, get?_cons, get?_cons, ih]
        by_cases h : key = l
        · have hk : key ≠ k := fun e => hl (h.symm.trans e)
          rw [if_pos h, if_neg hk, if_pos h]
        · rw [if_neg h, if_neg h]

/-- After a key is left out nothing is found under it, and under any other
key what was found before. -/
theorem get?_without (t : Table α) (k key : String) :
    get? (without t k) key = if key = k then none else get? t key := by
  unfold without
  rw [get?_filter fun old => old != k]
  by_cases h : key = k
  · rw [if_pos h, if_neg (by simp [h])]
  · rw [if_neg h, if_pos (by simp [h])]

/-- What is found under a moved key is what stood under the old one. -/
theorem get?_mount (base key : String) (t : Table α) :
    get? (mount base t) (base ++ key) = get? t key := by
  induction t with
  | nil => rfl
  | cons head rest ih =>
      obtain ⟨k, v⟩ := head
      show get? ((base ++ k, v) :: mount base rest) (base ++ key) = _
      rw [get?_cons, get?_cons, ih]
      by_cases h : key = k
      · rw [if_pos h, if_pos (congrArg (base ++ ·) h)]
      · rw [if_neg h, if_neg fun e => h ((String.append_right_inj base).1 e)]

/-- Every key of a mounted table is an old one behind the path. -/
theorem exists_of_mem_keys_mount {base : String}
    (h : key ∈ keys (mount base t)) : ∃ old, key = base ++ old := by
  rw [keys_mount] at h
  obtain ⟨old, -, rfl⟩ := List.mem_map.1 h
  exact ⟨old, rfl⟩

/-- Putting brings in nothing but what is put. -/
theorem mem_put {pair : String × α} (h : pair ∈ put t k value) :
    pair = (k, value) ∨ pair ∈ t := by
  induction t with
  | nil => exact .inl (List.mem_singleton.1 h)
  | cons head rest ih =>
      obtain ⟨l, v⟩ := head
      rw [put] at h
      by_cases hl : l = k
      · rw [if_pos hl] at h
        rcases List.mem_cons.1 h with heq | hrest
        · exact .inl (hl ▸ heq)
        · exact .inr (List.mem_cons_of_mem _ hrest)
      · rw [if_neg hl] at h
        rcases List.mem_cons.1 h with heq | hrest
        · exact .inr (heq ▸ List.mem_cons_self)
        · exact (ih hrest).imp_right (List.mem_cons_of_mem _)

/-- Whoever leaves a key out does not see what was put under it. -/
theorem filter_put {p : String × α → Bool} (hp : ∀ v, p (k, v) = false)
    (t : Table α) (value : α) :
    (put t k value).filter p = t.filter p := by
  induction t with
  | nil => simp [put, hp]
  | cons head rest ih =>
      obtain ⟨l, v⟩ := head
      rw [put]
      by_cases hl : l = k
      · rw [if_pos hl, hl, List.filter_cons_of_neg (by simp [hp]),
          List.filter_cons_of_neg (by simp [hp])]
      · rw [if_neg hl, List.filter_cons, List.filter_cons, ih]

/-- Putting pairs in turn makes no member of its own. -/
private theorem mem_foldl_put {pair : String × α}
    {pairs : List (String × α)}
    (h : pair ∈ pairs.foldl (fun t x => put t x.1 x.2) t) :
    pair ∈ t ∨ pair ∈ pairs := by
  induction pairs generalizing t with
  | nil => exact .inl h
  | cons head rest ih =>
      rw [List.foldl_cons] at h
      rcases ih h with hput | hrest
      · rcases mem_put hput with heq | ht
        · exact .inr (heq ▸ List.mem_cons_self)
        · exact .inl ht
      · exact .inr (List.mem_cons_of_mem _ hrest)

/-- The table that pairs make holds nothing but those pairs. -/
theorem mem_of_mem_ofPairs {pair : String × α}
    {pairs : List (String × α)} (h : pair ∈ ofPairs pairs) :
    pair ∈ pairs := by
  rcases mem_foldl_put h with hnil | hmem
  · cases hnil
  · exact hmem

theorem mapValues_mapValues {γ : Type _} (g : β → γ) (f : α → β)
    (t : Table α) :
    mapValues g (mapValues f t) = mapValues (fun a => g (f a)) t := by
  unfold mapValues
  rw [List.map_map]
  rfl

/-- The values can be changed before the keys are moved or after. -/
theorem mapValues_mount (f : α → β) (base : String) (t : Table α) :
    mapValues f (mount base t) = mount base (mapValues f t) := by
  unfold mapValues mount
  rw [List.map_map, List.map_map]
  rfl

-- ============================================================== proper

/-- No key stands twice, none of the names is a key, and every value is
good. -/
structure Proper (good : α → Prop) (names : List String) (t : Table α) :
    Prop where
  nodup : (keys t).Nodup
  apart : ∀ name ∈ names, name ∉ keys t
  values : ∀ pair ∈ t, good pair.2

variable {good : α → Prop} {names : List String}

theorem proper_nil : Proper good names ([] : Table α) :=
  ⟨List.nodup_nil, fun _ _ => List.not_mem_nil, List.forall_mem_nil _⟩

/-- Leaving members out keeps a table proper. -/
theorem Proper.filter (h : Proper good names t)
    (p : String × α → Bool) : Proper good names (t.filter p) := by
  refine ⟨nodup_keys_filter p h.nodup, ?_, ?_⟩
  · intro name hname hmem
    obtain ⟨value, hvalue⟩ := mem_keys_iff.1 hmem
    exact h.apart name hname
      (mem_keys_of_mem (List.mem_filter.1 hvalue).1)
  · intro pair hpair
    exact h.values pair (List.mem_filter.1 hpair).1

/-- A good value put under a key that is not reserved keeps a table
proper. -/
theorem Proper.put (h : Proper good names t) (hk : k ∉ names)
    (hvalue : good value) : Proper good names (put t k value) := by
  refine ⟨nodup_keys_put h.nodup k value, ?_, ?_⟩
  · intro name hname hmem
    obtain ⟨v, hv⟩ := mem_keys_iff.1 hmem
    rcases mem_put hv with heq | ht
    · injection heq with hk' hv'
      exact hk (hk' ▸ hname)
    · exact h.apart name hname (mem_keys_of_mem ht)
  · intro pair hpair
    rcases mem_put hpair with rfl | ht
    · exact hvalue
    · exact h.values pair ht

theorem Proper.imp {better : α → Prop} (h : Proper good names t)
    (hb : ∀ value, good value → better value) : Proper better names t :=
  ⟨h.nodup, h.apart, fun pair hpair => hb _ (h.values pair hpair)⟩

/-- What is asked of the changed values can be asked of the old ones. -/
theorem proper_mapValues_iff {better : β → Prop} {f : α → β} :
    Proper better names (mapValues f t)
      ↔ Proper (fun value => better (f value)) names t := by
  constructor
  · intro h
    obtain ⟨nodup, apart, values⟩ := h
    rw [keys_mapValues] at nodup apart
    refine ⟨nodup, apart, fun pair hpair => ?_⟩
    exact values (pair.1, f pair.2) (List.mem_map_of_mem hpair)
  -- the keys are the same, and each value comes of an old one
  · intro h
    obtain ⟨nodup, apart, values⟩ := h
    refine ⟨?_, ?_, ?_⟩
    · rw [keys_mapValues]
      exact nodup
    · rw [keys_mapValues]
      exact apart
    · intro pair hpair
      obtain ⟨old, hold, rfl⟩ := List.mem_map.1 hpair
      exact values old hold

/-- Moving the keys keeps a table proper where no name is reserved. -/
theorem Proper.mount (h : Proper good [] t) (base : String) :
    Proper good [] (mount base t) := by
  refine ⟨nodup_keys_mount h.nodup, List.forall_mem_nil _, ?_⟩
  intro pair hpair
  obtain ⟨old, hold, rfl⟩ := List.mem_map.1 hpair
  exact h.values old hold

/-- Putting good values in turn makes a proper table. -/
theorem Proper.ofPairs {pairs : List (String × α)}
    (h : ∀ pair ∈ pairs, good pair.2) : Proper good [] (ofPairs pairs) :=
  ⟨nodup_keys_ofPairs pairs, List.forall_mem_nil _,
    fun pair hpair => h pair (mem_of_mem_ofPairs hpair)⟩

-- ============================================================ adjusting

/-- The table with the value under a key changed. -/
def adjust (key : String) (f : α → α) (t : Table α) : Table α :=
  t.map fun pair => if pair.1 = key then (pair.1, f pair.2) else pair

theorem adjust_cons_self (key : String) (f : α → α) (value : α)
    (t : Table α) :
    adjust key f ((key, value) :: t)
      = (key, f value) :: adjust key f t := by
  unfold adjust
  rw [List.map_cons, if_pos rfl]

theorem adjust_cons_ne {f : α → α} (h : k ≠ key) (value : α)
    (t : Table α) :
    adjust key f ((k, value) :: t) = (k, value) :: adjust key f t := by
  unfold adjust
  rw [List.map_cons, if_neg h]

theorem keys_adjust (key : String) (f : α → α) (t : Table α) :
    keys (adjust key f t) = keys t := by
  unfold keys adjust
  rw [List.map_map]
  refine List.map_congr_left fun pair _ => ?_
  show (if pair.1 = key then (pair.1, f pair.2) else pair).1 = pair.1
  by_cases h : pair.1 = key
  · rw [if_pos h]
  · rw [if_neg h]

/-- Under the key the changed value is found. -/
theorem get?_adjust_self (key : String) (f : α → α) (t : Table α) :
    get? (adjust key f t) key = (get? t key).map f := by
  induction t with
  | nil => rfl
  | cons head rest ih =>
      obtain ⟨k, v⟩ := head
      by_cases h : k = key
      · subst h
        rw [adjust_cons_self, get?_cons, get?_cons, if_pos rfl, if_pos rfl]
        rfl
      · rw [adjust_cons_ne h, get?_cons, get?_cons, if_neg (Ne.symm h),
          if_neg (Ne.symm h), ih]

/-- Where the key is not found, or its value stays, nothing changes. -/
theorem adjust_eq_self {f : α → α}
    (h : ∀ value, (key, value) ∈ t → f value = value) :
    adjust key f t = t := by
  unfold adjust
  refine (List.map_congr_left fun pair hpair => ?_).trans (List.map_id t)
  obtain ⟨k, value⟩ := pair
  by_cases hk : k = key
  · subst hk
    rw [if_pos rfl, h value hpair]
    rfl
  · rw [if_neg hk]
    rfl

/-- Adjusting and mounting leave nothing but values as they were or
adjusted. -/
theorem mem_mount_adjust {base : String} {f : α → α}
    {member : String × α} (h : member ∈ mount base (adjust key f t)) :
    ∃ old ∈ t, member.2 = f old.2 ∨ member.2 = old.2 := by
  obtain ⟨pair, hpair, rfl⟩ := List.mem_map.1 h
  obtain ⟨old, hold, rfl⟩ := List.mem_map.1 hpair
  refine ⟨old, hold, ?_⟩
  by_cases hk : old.1 = key
  · rw [if_pos hk]
    exact .inl rfl
  · rw [if_neg hk]
    exact .inr rfl

end ApiMount.Table
