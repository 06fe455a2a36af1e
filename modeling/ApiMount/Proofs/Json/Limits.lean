/-
What the reader gives is within its limits (`fits_of_read`): no more
values lie inside each other than it has levels for, and no integer has
more digits than a whole part may have. A value whose numbers are whole,
once read, can so be written and read again.

Both limits are one invariant of the reader, carried by induction on the
levels that are left (`bounded_value`).
-/
import ApiMount.Proofs.Json.Inside
import ApiMount.Proofs.Json.Numbers
import ApiMount.Proofs.Result

namespace ApiMount.Json.Reader

-- ============================================================== numbers

/-- So many digits spell no number that would need more. -/
theorem natOfDigits_lt {ds : List UInt8}
    (h : ∀ d ∈ ds, isDigit d = true) :
    natOfDigits ds < Nat.pow 10 ds.length := by
  -- the invariant: what the digits so far make stays below the power of
  -- their number
  have fold (ds : List UInt8) (h : ∀ d ∈ ds, isDigit d = true)
      (n k : Nat) (hn : n < Nat.pow 10 k) :
      ds.foldl (fun n d => 10 * n + (d.toNat - 0x30)) n
        < Nat.pow 10 (k + ds.length) := by
    induction ds generalizing n k with
    | nil => exact hn
    | cons d ds ih =>
        obtain ⟨hd, hds⟩ := List.forall_mem_cons.1 h
        have hle : d.toNat ≤ 0x39 := by
          unfold isDigit at hd
          rw [Bool.and_eq_true, decide_eq_true_eq, decide_eq_true_eq,
            UInt8.le_iff_toNat_le, UInt8.le_iff_toNat_le] at hd
          exact hd.2
        rw [List.foldl_cons, List.length_cons, Nat.add_comm ds.length,
          ← Nat.add_assoc]
        refine ih hds _ _ ?_
        show 10 * n + (d.toNat - 0x30) < Nat.pow 10 k * 10
        omega
  have h0 := fold ds h 0 0 (by decide)
  rwa [Nat.zero_add] at h0

/-- A number is written with no more digits than it was read from. -/
theorem length_digits_natOfDigits {ds : List UInt8}
    (h : ∀ d ∈ ds, isDigit d = true) {k : Nat} (hk : 0 < k)
    (hl : ds.length ≤ k) : (digits (natOfDigits ds)).length ≤ k := by
  unfold digits
  rw [Nat.length_toDigits_le_iff (by decide) hk]
  exact Nat.lt_of_lt_of_le (natOfDigits_lt h)
    (Nat.pow_le_pow_right (by decide) hl)

/-- A run of digits holds nothing else. -/
theorem isDigit_of_mem_digitRun {s ds left : List UInt8}
    (h : digitRun s = .ok (ds, left)) : ∀ d ∈ ds, isDigit d = true := by
  cases s with
  | nil => cases h
  | cons b s =>
      unfold digitRun at h
      by_cases hb : isDigit b = true
      · simp only [hb, if_true, Except.ok.injEq, Prod.mk.injEq] at h
        rw [← h.1]
        intro d hd
        exact List.all_eq_true.1 List.all_takeWhile d hd
      · simp only [hb] at h
        cases h

theorem isDigit_of_mem_wholePart {s ds left : List UInt8}
    (h : wholePart s = .ok (ds, left)) : ∀ d ∈ ds, isDigit d = true := by
  cases s with
  | nil => cases h
  | cons b s =>
      unfold wholePart at h
      -- a leading zero stands alone
      by_cases hb : b = octet '0'
      · subst hb
        have hzero : ds = [octet '0'] := by
          cases s with
          | nil =>
              cases h
              rfl
          | cons c s =>
              by_cases hc : isDigit c = true
              · simp only [hc, if_true] at h
                cases h
              · simp only [hc, if_true] at h
                cases h
                rfl
        intro d hd
        rw [hzero, List.mem_singleton] at hd
        subst hd
        decide
      · simp only [hb, if_false] at h
        exact isDigit_of_mem_digitRun h

-- ============================================================= the bound

/-- Within so many levels, and no integer too long. -/
def Bounded (n : Nat) (v : Json) : Prop :=
  v.levels ≤ n ∧ v.Throughout IsShort

/-- The reader gives nothing that is not bounded so. -/
def Bounds (part : List UInt8 → Outcome (Read Json)) (n : Nat) : Prop :=
  ∀ s v left, part s = .ok (v, left) → Bounded n v

variable {n : Nat}

/-- A number that was read without its sign can be read again. -/
theorem bounded_unsignedNumber {negative : Bool} {s left : List UInt8}
    {v : Json} (h : unsignedNumber negative s = .ok (v, left)) :
    Bounded (n + 1) v := by
  unfold unsignedNumber at h
  obtain ⟨⟨whole, s₁⟩, hwhole, h⟩ := bind_eq_ok_iff.1 h
  by_cases hlong : wholeLimit < whole.length
  · simp only [hlong, if_true] at h
    cases h
  simp only [hlong, if_false] at h
  obtain ⟨⟨fraction, s₂⟩, -, h⟩ := bind_eq_ok_iff.1 h
  obtain ⟨⟨exponent, s₃⟩, -, h⟩ := bind_eq_ok_iff.1 h
  have hshort : (digits (natOfDigits whole)).length ≤ wholeLimit :=
    length_digits_natOfDigits (isDigit_of_mem_wholePart hwhole)
      (by decide) (Nat.not_lt.1 hlong)
  have hone : 1 ≤ n + 1 := Nat.succ_le_succ (Nat.zero_le n)
  -- a number with a fraction or an exponent is a double, which nothing
  -- limits
  cases fraction with
  | some f =>
      cases h
      exact ⟨hone, trivial⟩
  | none =>
      cases exponent with
      | some e =>
          cases h
          exact ⟨hone, trivial⟩
      | none =>
          cases h
          refine ⟨hone, ?_⟩
          show (digits (Int.natAbs _)).length ≤ wholeLimit
          cases negative with
          | true =>
              rw [if_pos rfl, Int.natAbs_neg, Int.natAbs_natCast]
              exact hshort
          | false =>
              rw [if_neg Bool.false_ne_true, Int.natAbs_natCast]
              exact hshort

/-- A number that was read can be read again. -/
theorem bounded_number {s left : List UInt8} {v : Json}
    (h : number s = .ok (v, left)) : Bounded (n + 1) v := by
  cases s with
  | nil => exact bounded_unsignedNumber h
  | cons b s =>
      unfold number at h
      by_cases hb : b = octet '-'
      · simp only [hb, if_true] at h
        cases s with
        | nil => exact bounded_unsignedNumber h
        | cons c s =>
            by_cases hc : c = octet 'I'
            · simp only [hc, if_true] at h
              obtain ⟨rest, -, h⟩ := bind_eq_ok_iff.1 h
              cases h
              exact ⟨Nat.succ_le_succ (Nat.zero_le n), trivial⟩
            · simp only [hc, if_false] at h
              exact bounded_unsignedNumber h
      · simp only [hb, if_false] at h
        exact bounded_unsignedNumber h

-- ======================================================= parts and values

variable {part : List UInt8 → Outcome (Read Json)} {turns : Nat}

/-- The items that are read stay within what the reader of one item
allows. -/
theorem items_bounded (hp : Bounds part n) {k : Nat} {s left : List UInt8}
    {vs : List Json} (h : items part k s = .ok (vs, left)) :
    ∀ v ∈ vs, Bounded n v := by
  -- the induction is on the turns of the reader
  induction k generalizing s vs with
  | zero => cases h
  | succ k ih =>
      unfold items at h
      obtain ⟨⟨v, rest⟩, hv, h⟩ := bind_eq_ok_iff.1 h
      have hfirst : Bounded n v := hp s v rest hv
      cases hb : skipBlanks rest with
      | nil =>
          simp only [hb] at h
          cases h
      | cons b rest =>
          simp only [hb] at h
          -- the list ends, goes on behind a comma, or is refused
          by_cases hend : b = octet ']'
          · simp only [hend, if_true] at h
            cases h
            exact List.forall_mem_cons.2 ⟨hfirst, List.forall_mem_nil _⟩
          by_cases hcomma : b = octet ','
          · simp only [hcomma, if_true] at h
            cases hc : skipBlanks rest with
            | nil =>
                simp only [hc] at h
                cases h
            | cons c more =>
                simp only [hc] at h
                by_cases hbracket : c = octet ']'
                · simp only [hbracket, if_true] at h
                  cases h
                · simp only [hbracket, if_false] at h
                  obtain ⟨⟨ws, after⟩, hws, h⟩ := bind_eq_ok_iff.1 h
                  cases h
                  exact List.forall_mem_cons.2 ⟨hfirst, ih hws⟩
          · simp only [hend, hcomma, if_false] at h
            cases h

theorem members_bounded (hp : Bounds part n) {k : Nat}
    {s left : List UInt8} {ms : List (String × Json)}
    (h : members part k s = .ok (ms, left)) :
    ∀ m ∈ ms, Bounded n m.2 := by
  -- the induction is on the turns of the reader
  induction k generalizing s ms with
  | zero => cases h
  | succ k ih =>
      unfold members at h
      obtain ⟨⟨name, atValue⟩, -, h⟩ := bind_eq_ok_iff.1 h
      obtain ⟨⟨v, rest⟩, hv, h⟩ := bind_eq_ok_iff.1 h
      have hfirst : Bounded n v := hp atValue v rest hv
      cases hb : skipBlanks rest with
      | nil =>
          simp only [hb] at h
          cases h
      | cons b rest =>
          simp only [hb] at h
          -- the object ends, goes on behind a comma, or is refused
          by_cases hend : b = octet '\x7d'
          · simp only [hend, if_true] at h
            cases h
            exact List.forall_mem_cons.2 ⟨hfirst, List.forall_mem_nil _⟩
          by_cases hcomma : b = octet ','
          · simp only [hcomma, if_true] at h
            cases hc : skipBlanks rest with
            | nil =>
                simp only [hc] at h
                cases h
            | cons c more =>
                simp only [hc] at h
                by_cases hquote : c = octet '"'
                · simp only [hquote, if_true] at h
                  obtain ⟨⟨ws, after⟩, hws, h⟩ := bind_eq_ok_iff.1 h
                  cases h
                  exact List.forall_mem_cons.2 ⟨hfirst, ih hws⟩
                · by_cases hbrace : c = octet '\x7d'
                  · simp only [hbrace, if_true] at h
                    cases h
                  · simp only [hquote, hbrace, if_false] at h
                    cases h
          · simp only [hend, hcomma, if_false] at h
            cases h

theorem bounded_arr {vs : List Json} (h : ∀ v ∈ vs, Bounded n v) :
    Bounded (n + 1) (.arr vs) :=
  ⟨levels_arr_le_iff.2 fun v hv => (h v hv).1,
    throughout_arr_iff.2 ⟨trivial, fun v hv => (h v hv).2⟩⟩

theorem bounded_obj {ms : List (String × Json)}
    (h : ∀ m ∈ ms, Bounded n m.2) : Bounded (n + 1) (.obj ms) :=
  ⟨levels_obj_le_iff.2 fun m hm => (h m hm).1,
    throughout_obj_iff.2 ⟨trivial, fun m hm => (h m hm).2⟩⟩

/-- The words stand for values without parts. -/
theorem bounded_word {b : UInt8} {letters : String} {v : Json}
    (h : lead b = .word letters v) : Bounded (n + 1) v := by
  have hone : 1 ≤ n + 1 := Nat.succ_le_succ (Nat.zero_le n)
  unfold lead at h
  repeat' split at h
  all_goals
    cases h
    try exact ⟨hone, trivial⟩

/-- A reader of values gives one level more than the reader of their
parts. -/
theorem bounds_valueOf (hp : Bounds part n) :
    Bounds (valueOf part turns) (n + 1) := by
  intro s v left h
  have hone : 1 ≤ n + 1 := Nat.succ_le_succ (Nat.zero_le n)
  cases s with
  | nil => cases h
  | cons b s =>
      unfold valueOf at h
      -- the first byte decides what is read; words, numbers and texts
      -- have no parts
      cases hlead : lead b with
      | nothing =>
          simp only [hlead] at h
          cases h
      | number =>
          simp only [hlead] at h
          exact bounded_number h
      | word letters w =>
          simp only [hlead] at h
          obtain ⟨rest, -, h⟩ := bind_eq_ok_iff.1 h
          cases h
          exact bounded_word hlead
      | string =>
          simp only [hlead] at h
          obtain ⟨⟨text, rest⟩, -, h⟩ := bind_eq_ok_iff.1 h
          cases h
          exact ⟨hone, trivial⟩
      | array =>
          simp only [hlead] at h
          cases hc : skipBlanks s with
          | nil =>
              simp only [hc] at h
              cases h
          | cons c more =>
              simp only [hc] at h
              by_cases hend : c = octet ']'
              · simp only [hend, if_true] at h
                cases h
                exact bounded_arr (List.forall_mem_nil _)
              · simp only [hend, if_false] at h
                obtain ⟨⟨vs, rest⟩, hvs, h⟩ := bind_eq_ok_iff.1 h
                cases h
                exact bounded_arr (items_bounded hp hvs)
      | object =>
          simp only [hlead] at h
          cases hc : skipBlanks s with
          | nil =>
              simp only [hc] at h
              cases h
          | cons c more =>
              simp only [hc] at h
              by_cases hend : c = octet '\x7d'
              · simp only [hend, if_true] at h
                cases h
                exact bounded_obj (List.forall_mem_nil _)
              by_cases hquote : c = octet '"'
              · simp only [hquote, if_true] at h
                obtain ⟨⟨ms, rest⟩, hms, h⟩ := bind_eq_ok_iff.1 h
                cases h
                exact bounded_obj (members_bounded hp hms)
              · simp only [hend, hquote, if_false] at h
                cases h

/-- With room for `n` levels of parts, a value has one level more at
most. -/
theorem bounds_value (turns n : Nat) :
    Bounds (value turns n) (n + 1) := by
  induction n with
  | zero =>
      refine bounds_valueOf ?_
      intro s v left h
      cases h
  | succ n ih => exact bounds_valueOf ih

end Reader

open Reader

/-- Whatever is read stays within the limits of reading. -/
theorem bounded_of_read {bs : List UInt8} {v : Json}
    (h : read bs = .ok v) : Bounded (levelLimit + 1) v := by
  unfold read at h
  obtain ⟨⟨w, left⟩, hw, h⟩ := bind_eq_ok_iff.1 h
  cases hb : skipBlanks left with
  | nil =>
      simp only [hb] at h
      cases h
      exact bounds_value _ _ _ _ _ hw
  | cons b rest =>
      simp only [hb] at h
      cases h

/-- What was read fits where it was read, if its numbers are whole. -/
theorem fits_of_read {bs : List UInt8} {v : Json}
    (h : read bs = .ok v) (whole : v.Throughout IsWhole) :
    v.Fits (levelLimit + 1) :=
  ⟨(bounded_of_read h).1, whole, (bounded_of_read h).2⟩

end ApiMount.Json
