/-
What texts of every kind build on: hexadecimal digits, as numbered
escapes are made of them; lengths in bytes, and the excerpt of a long
text; and sets of code points.

A text of more than fifty bytes is shown by its first 25 and its last 24
bytes with dots between; a character that either bound would cut is left
out. Sets of code points are tables of closed ranges in rising order. A
code point is looked up by halving, so that a long table costs little.
-/

namespace ApiMount.Text

-- ============================================================= escapes

/-- A digit below sixteen, letters small. -/
def hexDigit (n : Nat) : Char :=
  if n < 10 then Char.ofNat (0x30 + n) else Char.ofNat (0x57 + n)

/-- `n` in hexadecimal with exactly `width` digits. -/
def hex : (width n : Nat) → List Char
  | 0, _ => []
  | width + 1, n => hex width (n / 16) ++ [hexDigit (n % 16)]

/-- The value of a hexadecimal digit of either case. -/
def hexValue? (c : Char) : Option Nat :=
  if '0' ≤ c && c ≤ '9' then some (c.toNat - 0x30)
  else if 'a' ≤ c && c ≤ 'f' then some (c.toNat - 0x57)
  else if 'A' ≤ c && c ≤ 'F' then some (c.toNat - 0x37)
  else none

/-- A digit has the value that it was made for. -/
theorem hexValue?_hexDigit {n : Nat} (h : n < 16) :
    hexValue? (hexDigit n) = some n := by
  have all : ∀ m : Fin 16, hexValue? (hexDigit m.val) = some m.val := by
    decide
  exact all ⟨n, h⟩

-- ============================================================ excerpts

/-- How many bytes a text takes in UTF-8. -/
def byteCount : List Char → Nat
  | [] => 0
  | c :: rest => c.utf8Size + byteCount rest

/-- The longest start of a text that takes at most `budget` bytes. -/
def firstBytes (budget : Nat) : List Char → List Char
  | [] => []
  | c :: rest =>
    if c.utf8Size ≤ budget then c :: firstBytes (budget - c.utf8Size) rest
    else []

/-- The longest end of a text that takes at most `budget` bytes. -/
def lastBytes (budget : Nat) (cs : List Char) : List Char :=
  (firstBytes budget cs.reverse).reverse

/-- A text, cut in the middle if it is long. -/
def excerpt (cs : List Char) : List Char :=
  if byteCount cs ≤ 50 then cs
  else firstBytes 25 cs ++ '.' :: '.' :: '.' :: lastBytes 24 cs

-- ============================================================== ranges

/-- Whether `n` lies in one of the ranges with index from `lo` up to,
but not including, `hi`. Each of the `steps` halves the distance. -/
def inRangesFrom (ranges : Array (Nat × Nat)) (n : Nat) :
    (steps lo hi : Nat) → Bool
  | 0, _, _ => false
  | steps + 1, lo, hi =>
    if lo < hi then
      let mid := (lo + hi) / 2
      match ranges[mid]? with
      | none => false
      | some (first, last) =>
        if n < first then inRangesFrom ranges n steps lo mid
        else if last < n then inRangesFrom ranges n steps (mid + 1) hi
        else true
    else false

/-- Whether `n` lies in one of the ranges of a table. Twelve halvings
search more than four thousand ranges. -/
def inRanges (ranges : Array (Nat × Nat)) (n : Nat) : Bool :=
  inRangesFrom ranges n 12 0 ranges.size

end ApiMount.Text
