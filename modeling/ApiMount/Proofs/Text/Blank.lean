/-
Trimming, and taking a text apart at a character. A trim takes the blanks
from both ends and nothing else (`exists_trim`), and it gives back what
blanks were put around (`trim_padded`). A text put together from pieces
with a character between them comes apart into those pieces
(`splitAt_intercalate`), if none of them holds the character.

Whoever takes a text apart at a character that is not blank and trims
the pieces does not notice whether the text was trimmed before
(`map_trim_splitAt_trim`).
-/
import ApiMount.Text.Blank
import Mathlib.Data.List.TakeWhile

namespace ApiMount.Text

/-- Nothing but blanks. -/
def AllBlank (t : List Char) : Prop := ∀ c ∈ t, isBlank c = true

/-- No blank at either end. -/
structure IsStripped (t : List Char) : Prop where
  first : ∀ c ∈ t.head?, isBlank c = false
  last : ∀ c ∈ t.getLast?, isBlank c = false

variable {b s t before after : List Char}

theorem allBlank_nil : AllBlank [] := by
  intro c hc
  cases hc

theorem allBlank_singleton {c : Char} (hc : isBlank c = true) :
    AllBlank [c] := by
  intro d hd
  rw [List.mem_singleton.1 hd]
  exact hc

theorem allBlank_append (hs : AllBlank s) (ht : AllBlank t) :
    AllBlank (s ++ t) :=
  List.forall_mem_append.2 ⟨hs, ht⟩

theorem allBlank_reverse (ht : AllBlank t) : AllBlank t.reverse := by
  intro c hc
  exact ht c (List.mem_reverse.1 hc)

-- ============================================================ trimming

/-- Trimming the end is trimming the start of the reversed text. -/
theorem trimEnd_eq (t : List Char) :
    trimEnd t = (trimStart t.reverse).reverse :=
  rfl

/-- Leading blanks are trimmed, as many as there are. -/
theorem trimStart_append (hb : AllBlank b) (t : List Char) :
    trimStart (b ++ t) = trimStart t :=
  List.dropWhile_append_of_pos hb

theorem trimEnd_append (hb : AllBlank b) (t : List Char) :
    trimEnd (t ++ b) = trimEnd t := by
  rw [trimEnd_eq, trimEnd_eq, List.reverse_append,
    trimStart_append (allBlank_reverse hb)]

/-- A text that starts with no blank keeps its start. -/
theorem trimStart_of_first (h : ∀ c ∈ t.head?, isBlank c = false) :
    trimStart t = t := by
  cases t with
  | nil => rfl
  | cons c t => exact List.dropWhile_cons_of_neg (by simp [h c rfl])

theorem trimEnd_of_last (h : ∀ c ∈ t.getLast?, isBlank c = false) :
    trimEnd t = t := by
  rw [← List.head?_reverse] at h
  rw [trimEnd_eq, trimStart_of_first h, List.reverse_reverse]

/-- What is trimmed from the start is blanks. -/
theorem exists_trimStart (t : List Char) :
    ∃ b, AllBlank b ∧ t = b ++ trimStart t := by
  refine ⟨t.takeWhile isBlank, ?_, List.takeWhile_append_dropWhile.symm⟩
  intro c hc
  exact List.mem_takeWhile_imp hc

theorem exists_trimEnd (t : List Char) :
    ∃ b, AllBlank b ∧ t = trimEnd t ++ b := by
  obtain ⟨b, hb, ht⟩ := exists_trimStart t.reverse
  refine ⟨b.reverse, allBlank_reverse hb, ?_⟩
  rw [trimEnd_eq, ← List.reverse_append, ← ht, List.reverse_reverse]

/-- A trim takes blanks from both ends. -/
theorem exists_trim (t : List Char) :
    ∃ before after, AllBlank before ∧ AllBlank after
      ∧ t = before ++ trim t ++ after := by
  obtain ⟨before, hbefore, hstart⟩ := exists_trimStart t
  obtain ⟨after, hafter, hend⟩ := exists_trimEnd (trimStart t)
  refine ⟨before, after, hbefore, hafter, ?_⟩
  unfold trim
  rw [List.append_assoc, ← hend]
  exact hstart

/-- Trimming adds no character. -/
theorem mem_of_mem_trim {c : Char} (h : c ∈ trim t) : c ∈ t := by
  obtain ⟨before, after, -, -, ht⟩ := exists_trim t
  rw [ht]
  exact List.mem_append_left after (List.mem_append_right before h)

/-- No blank comes first after a trim at the start. -/
theorem first_trimStart (t : List Char) :
    ∀ c ∈ (trimStart t).head?, isBlank c = false := by
  intro c hc
  have h := List.head?_dropWhile_not isBlank t
  have hhead : (t.dropWhile isBlank).head? = some c := hc
  rw [hhead] at h
  exact h

/-- And none comes last after a trim. -/
theorem isStripped_trim (t : List Char) : IsStripped (trim t) := by
  constructor
  · intro c hc
    obtain ⟨after, -, hstart⟩ := exists_trimEnd (trimStart t)
    have hfirst : c ∈ (trimStart t).head? := by
      have hend : (trimEnd (trimStart t)).head? = some c := hc
      rw [hstart, List.head?_append, hend]
      rfl
    exact first_trimStart t c hfirst
  · intro c hc
    unfold trim at hc
    rw [trimEnd_eq, List.getLast?_reverse] at hc
    exact first_trimStart _ c hc

/-- A trim gives back what blanks were put around. -/
theorem trim_padded (ht : IsStripped t) (hb : AllBlank before)
    (ha : AllBlank after) : trim (before ++ t ++ after) = t := by
  unfold trim
  rw [List.append_assoc, trimStart_append hb]
  cases t with
  | nil =>
      have h := trimStart_append ha []
      rw [List.append_nil] at h
      rw [List.nil_append, h]
      rfl
  | cons c t =>
      have hfirst : trimStart (c :: t ++ after) = c :: t ++ after :=
        trimStart_of_first ht.first
      rw [hfirst, trimEnd_append ha, trimEnd_of_last ht.last]

theorem isStripped_nil : IsStripped [] := by
  constructor <;>
    · intro c hc
      cases hc

/-- Blanks at the ends make no difference to a trim. -/
theorem trim_surrounded (hb : AllBlank before) (ha : AllBlank after)
    (t : List Char) : trim (before ++ t ++ after) = trim t := by
  obtain ⟨first, last, hfirst, hlast, ht⟩ := exists_trim t
  have hall := congrArg (before ++ · ++ after) ht
  have hassoc : before ++ (first ++ trim t ++ last) ++ after
      = before ++ first ++ trim t ++ (last ++ after) := by
    simp only [List.append_assoc]
  rw [hall.trans hassoc]
  exact trim_padded (isStripped_trim t) (allBlank_append hb hfirst)
    (allBlank_append hlast ha)

-- =========================================================== splitting

section

variable {sep : Char}

/-- There is always a first piece, an empty one if need be. -/
theorem exists_splitAt (sep : Char) (t : List Char) :
    ∃ piece pieces, splitAt sep t = piece :: pieces := by
  cases t with
  | nil => exact ⟨[], [], rfl⟩
  | cons c t =>
      unfold splitAt
      split
      · exact ⟨_, _, rfl⟩
      · split
        · exact ⟨_, _, rfl⟩
        · exact ⟨_, _, rfl⟩

/-- The character itself begins a new piece. -/
theorem splitAt_self (sep : Char) (t : List Char) :
    splitAt sep (sep :: t) = [] :: splitAt sep t := by
  obtain ⟨piece, pieces, h⟩ := exists_splitAt sep t
  rw [splitAt, h]
  exact if_pos rfl

/-- Any other character goes to the first piece. -/
theorem splitAt_cons {c : Char} (hc : c ≠ sep) {piece : List Char}
    {pieces : List (List Char)} (h : splitAt sep t = piece :: pieces) :
    splitAt sep (c :: t) = (c :: piece) :: pieces := by
  rw [splitAt, h]
  exact if_neg hc

/-- What holds no separator goes to the first piece. -/
theorem splitAt_append (hs : sep ∉ s) {piece : List Char}
    {pieces : List (List Char)} (h : splitAt sep t = piece :: pieces) :
    splitAt sep (s ++ t) = (s ++ piece) :: pieces := by
  induction s with
  | nil => exact h
  | cons c s ih =>
      rw [List.mem_cons, not_or] at hs
      exact splitAt_cons (Ne.symm hs.1) (ih hs.2)

/-- A text without a separator is its only piece. -/
theorem splitAt_of_not_mem (hs : sep ∉ s) : splitAt sep s = [s] := by
  have h := splitAt_append hs (t := []) rfl
  rwa [List.append_nil] at h

/-- The first separator ends the first piece. -/
theorem splitAt_append_self (hs : sep ∉ s) (t : List Char) :
    splitAt sep (s ++ sep :: t) = s :: splitAt sep t := by
  have h := splitAt_append hs (splitAt_self sep t)
  rwa [List.append_nil] at h

/-- What is put together with a character between the pieces comes
apart. -/
theorem splitAt_intercalate {pieces : List (List Char)}
    (hne : pieces ≠ []) (h : ∀ piece ∈ pieces, sep ∉ piece) :
    splitAt sep ([sep].intercalate pieces) = pieces := by
  -- each piece ends at the separator behind it, the last at the end
  induction pieces with
  | nil => exact absurd rfl hne
  | cons piece pieces ih =>
      obtain ⟨hpiece, hpieces⟩ := List.forall_mem_cons.1 h
      cases pieces with
      | nil =>
          rw [List.intercalate_singleton]
          exact splitAt_of_not_mem hpiece
      | cons next rest =>
          rw [List.intercalate_cons_cons, List.append_assoc]
          have hrest := ih (List.cons_ne_nil next rest) hpieces
          exact (splitAt_append_self hpiece _).trans
            (congrArg (piece :: ·) hrest)

/-- No piece holds a separator. -/
theorem not_mem_of_mem_splitAt {piece : List Char}
    (h : piece ∈ splitAt sep t) : sep ∉ piece := by
  induction t generalizing piece with
  | nil =>
      rw [splitAt, List.mem_singleton] at h
      subst h
      exact List.not_mem_nil
  | cons c t ih =>
      obtain ⟨first, others, hsplit⟩ := exists_splitAt sep t
      have hfirst : sep ∉ first := ih (hsplit ▸ List.mem_cons_self)
      by_cases hc : c = sep
      · subst hc
        rw [splitAt_self, List.mem_cons] at h
        rcases h with h | h
        · subst h
          exact List.not_mem_nil
        · exact ih h
      · rw [splitAt_cons hc hsplit, List.mem_cons] at h
        rcases h with h | h
        · subst h
          rw [List.mem_cons, not_or]
          exact ⟨Ne.symm hc, hfirst⟩
        · exact ih (hsplit ▸ List.mem_cons_of_mem first h)

/-- What holds no such character goes to the last piece when it comes
last. -/
theorem exists_splitAt_append (hb : sep ∉ b) (t : List Char) :
    ∃ pieces last, splitAt sep t = pieces ++ [last]
      ∧ splitAt sep (t ++ b) = pieces ++ [last ++ b] := by
  induction t with
  | nil => exact ⟨[], [], rfl, splitAt_of_not_mem hb⟩
  | cons c t ih =>
      obtain ⟨pieces, last, ht, hb⟩ := ih
      -- a separator starts a piece of its own; any other character joins
      -- the first
      by_cases hc : c = sep
      · subst hc
        refine ⟨[] :: pieces, last, ?_, ?_⟩
        · rw [splitAt_self, ht]
          rfl
        · rw [List.cons_append, splitAt_self, hb]
          rfl
      · cases pieces with
        | nil => exact ⟨[], c :: last, splitAt_cons hc ht,
            splitAt_cons hc hb⟩
        | cons piece pieces =>
            exact ⟨(c :: piece) :: pieces, last, splitAt_cons hc ht,
              splitAt_cons hc hb⟩

/-- A separator that is no blank does not stand among blanks. -/
theorem not_mem_of_allBlank (hsep : isBlank sep = false)
    (hb : AllBlank b) : sep ∉ b := by
  intro h
  rw [hb sep h] at hsep
  cases hsep

/-- The trimmed pieces of a text are those of the trimmed text. -/
theorem map_trim_splitAt_trim (hsep : isBlank sep = false)
    (t : List Char) :
    (splitAt sep (trim t)).map trim = (splitAt sep t).map trim := by
  obtain ⟨before, after, hbefore, hafter, ht⟩ := exists_trim t
  -- only the first piece and the last lose blanks, and they are trimmed
  -- anyway
  have hlast (last : List Char) : trim (last ++ after) = trim last :=
    trim_surrounded allBlank_nil hafter last
  have hfirst (first : List Char) : trim (before ++ first) = trim first := by
    have h := trim_surrounded hbefore allBlank_nil first
    rwa [List.append_nil] at h
  obtain ⟨pieces, last, htrim, hwith⟩ :=
    exists_splitAt_append (not_mem_of_allBlank hsep hafter) (trim t)
  have hend : (splitAt sep (trim t ++ after)).map trim
      = (splitAt sep (trim t)).map trim := by
    rw [hwith, htrim, List.map_append, List.map_append, List.map_singleton,
      List.map_singleton, hlast]
  obtain ⟨piece, others, hsplit⟩ := exists_splitAt sep (trim t ++ after)
  have hstart : (splitAt sep (before ++ (trim t ++ after))).map trim
      = (splitAt sep (trim t ++ after)).map trim := by
    rw [splitAt_append (not_mem_of_allBlank hsep hbefore) hsplit, hsplit,
      List.map_cons, List.map_cons, hfirst]
  calc (splitAt sep (trim t)).map trim
      = (splitAt sep (trim t ++ after)).map trim := hend.symm
    _ = (splitAt sep (before ++ (trim t ++ after))).map trim :=
        hstart.symm
    _ = (splitAt sep t).map trim := by rw [← List.append_assoc, ← ht]

end

end ApiMount.Text
