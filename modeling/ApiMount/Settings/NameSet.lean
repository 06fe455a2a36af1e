/-
Sets of names, held as lists in ascending order of code points. The
order makes a set a normal form: two sets with the same members are
equal (`NameSet.ext_mem`), whatever lists they were made from, and
whoever goes through a set meets its names in one order. Names are loose
texts, since a setting may write one with half of a surrogate pair.
-/
import ApiMount.Text.Loose

namespace ApiMount

open Text

/-- Inserts a name into an ascending list, unless it is there. -/
def insertName (name : LooseText) : List LooseText → List LooseText
  | [] => [name]
  | head :: rest =>
    if name = head then head :: rest
    else if name < head then name :: head :: rest
    else head :: insertName name rest

/-- Inserting a name adds that name and no other. -/
@[simp] theorem mem_insertName {n name : LooseText} {l : List LooseText} :
    n ∈ insertName name l ↔ n = name ∨ n ∈ l := by
  induction l with
  | nil => simp [insertName]
  | cons head rest ih =>
    by_cases he : name = head
    · simp [insertName, he]
    · by_cases hl : name < head
      · simp [insertName, he, hl]
      · simp [insertName, he, hl, ih, or_left_comm]

/-- A name is inserted in its place. -/
theorem pairwise_insertName {name : LooseText} {l : List LooseText}
    (h : l.Pairwise (· < ·)) : (insertName name l).Pairwise (· < ·) := by
  induction l with
  | nil => simp [insertName]
  | cons head rest ih =>
    obtain ⟨hh, hr⟩ := List.pairwise_cons.1 h
    by_cases he : name = head
    · simpa [insertName, he] using h
    · by_cases hl : name < head
      · have hn : ∀ n ∈ head :: rest, name < n := by
          intro n hn
          rcases List.mem_cons.1 hn with rfl | hn
          · exact hl
          · exact before_trans hl (hh n hn)
        rw [insertName, if_neg he, if_pos hl]
        exact List.pairwise_cons.2 ⟨hn, h⟩
      · rw [insertName, if_neg he, if_neg hl]
        refine List.pairwise_cons.2 ⟨?_, ih hr⟩
        intro n hn
        rcases mem_insertName.1 hn with rfl | hn
        · rcases lt_or_eq_or_gt n head with h | h | h
          · exact absurd h hl
          · exact absurd h he
          · exact h
        · exact hh n hn

/-- A set of names. -/
structure NameSet where
  names : List LooseText
  ascending : names.Pairwise (· < ·)

namespace NameSet

/-- The set without members. -/
def empty : NameSet := ⟨[], .nil⟩

/-- A set with one member more. -/
def insert (name : LooseText) (s : NameSet) : NameSet :=
  ⟨insertName name s.names, pairwise_insertName s.ascending⟩

/-- The set of a list's members. -/
def ofList : List LooseText → NameSet
  | [] => empty
  | name :: rest => (ofList rest).insert name

/-- The names of the set that a list makes are the list's. -/
@[simp] theorem mem_names_ofList {n : LooseText} {l : List LooseText} :
    n ∈ (ofList l).names ↔ n ∈ l := by
  induction l with
  | nil => simp [ofList, empty]
  | cons head rest ih => simp [ofList, insert, ih]

/-- Two ascending lists of the same names are one list. -/
private theorem eq_of_mem_iff {l m : List LooseText}
    (hl : l.Pairwise (· < ·)) (hm : m.Pairwise (· < ·))
    (h : ∀ n, n ∈ l ↔ n ∈ m) : l = m := by
  induction l generalizing m with
  | nil =>
    cases m with
    | nil => rfl
    | cons b m => exact absurd ((h b).2 (by simp)) (by simp)
  | cons a l ih =>
    cases m with
    | nil => exact absurd ((h a).1 (by simp)) (by simp)
    | cons b m =>
      obtain ⟨ha, hl'⟩ := List.pairwise_cons.1 hl
      obtain ⟨hb, hm'⟩ := List.pairwise_cons.1 hm
      have hab : a = b := by
        rcases List.mem_cons.1 ((h a).1 (by simp)) with e | ham
        · exact e
        · rcases List.mem_cons.1 ((h b).2 (by simp)) with e | hbl
          · exact e.symm
          · exact absurd (before_trans (hb a ham) (ha b hbl)) (not_lt_self b)
      subst hab
      refine congrArg (a :: ·) (ih hl' hm' fun n => ?_)
      have hn := h n
      simp only [List.mem_cons] at hn
      constructor
      · intro hnl
        rcases hn.1 (.inr hnl) with rfl | hnm
        · exact absurd (ha n hnl) (not_lt_self n)
        · exact hnm
      · intro hnm
        rcases hn.2 (.inr hnm) with rfl | hnl
        · exact absurd (hb n hnm) (not_lt_self n)
        · exact hnl

/-- Sets with the same members are equal. -/
theorem ext_mem {s t : NameSet} (h : ∀ n, n ∈ s.names ↔ n ∈ t.names) :
    s = t := by
  obtain ⟨l, hl⟩ := s
  obtain ⟨m, hm⟩ := t
  have : l = m := eq_of_mem_iff hl hm h
  subst this
  rfl

end NameSet

end ApiMount
