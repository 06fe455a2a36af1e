/-
Decimals of a chosen length. Where `Shortest` looks for the fewest
digits that read back, this rounds a value to the digits that are asked
for: to a number of places after the point, or to a number of digits in
all. Both round the exact value, a half going to the even neighbour.
-/
import ApiMount.Decimal.Layout

namespace ApiMount.Decimal

/-- How a decimal of chosen length is written. -/
inductive Style where
  /-- Places after the point. -/
  | places
  /-- One digit, places after the point, and an exponent. -/
  | exponent
  /-- As many digits as asked for, with an exponent when the number is
  small or has more digits before the point; zeros at the end are left
  out. -/
  | digits
  deriving DecidableEq, Repr

/-- A positive fraction. -/
structure Fraction where
  num : Nat
  den : Nat

/-- The value `significand · 2 ^ exponent`. -/
def Fraction.ofBinary (significand : Nat) (exponent : Int) : Fraction :=
  ⟨significand * twoTo exponent.toNat, twoTo (-exponent).toNat⟩

/-- How many units of `10 ^ k` a fraction is worth, rounded. -/
def Fraction.units (f : Fraction) (k : Int) : Nat :=
  roundDiv (f.num * tenTo (-k).toNat) (f.den * tenTo k.toNat)

/-- A fraction to `count` digits: the digits, and the power of ten of
the first one. Rounding may carry into a new first digit. -/
def Fraction.rounded (f : Fraction) (count : Nat) : List Char × Int :=
  if f.num = 0 then (List.replicate count '0', 0)
  else
    let leading := leadingPower f.num f.den
    let digits := Nat.toDigits 10 (f.units (leading - count + 1))
    if count < digits.length then (digits.take count, leading + 1)
    else (digits, leading)

/-- Digits with a point after the first `whole` of them; `point` keeps
the point even if nothing follows. -/
def withPoint (digits : List Char) (whole : Nat) (point : Bool) :
    List Char :=
  let after := digits.drop whole
  if after.isEmpty && !point then digits
  else digits.take whole ++ '.' :: after

/-- A fraction with the given number of places after the point. -/
def Fraction.fixed (f : Fraction) (places : Nat) (point : Bool) :
    List Char :=
  let digits := padded (places + 1) (f.units (-places))
  withPoint digits (digits.length - places) point

/-- Digits with a point after the first one, and an exponent of two
digits at least. -/
def exponential (digits : List Char) (leading : Int) (point : Bool) :
    List Char :=
  let sign := if leading < 0 then '-' else '+'
  withPoint digits 1 point ++ 'e' :: sign :: padded 2 leading.natAbs

/-- Digits without the zeros at their end; the first digit stays. -/
def withoutZeros : List Char → List Char
  | [] => []
  | d :: rest => d :: (rest.reverse.dropWhile (· == '0')).reverse

/-- A fraction with the given number of digits. `full` keeps the zeros
at the end, and the point. -/
def Fraction.general (f : Fraction) (count : Nat) (full : Bool) :
    List Char :=
  let (all, leading) := f.rounded count
  let digits := if full then all else withoutZeros all
  if leading < -4 || (count : Int) ≤ leading then
    exponential digits leading full
  else if leading < 0 then
    let zeros := List.replicate ((-leading).toNat - 1) '0'
    '0' :: '.' :: (zeros ++ digits)
  else
    let whole := leading.toNat + 1
    let zeros := List.replicate (whole - digits.length) '0'
    withPoint (digits ++ zeros) whole full

/-- A fraction in a style, to the given precision. -/
def Fraction.text (f : Fraction) (style : Style) (precision : Nat)
    (full : Bool) : List Char :=
  match style with
  | .places => f.fixed precision full
  | .exponent =>
    let (digits, leading) := f.rounded (precision + 1)
    exponential digits leading full
  | .digits => f.general (max precision 1) full

/-- The text of a double to a chosen precision, in small letters: whether
it has a minus, and the rest. -/
def roundedText (style : Style) (precision : Nat) (full : Bool)
    (x : Float) : Bool × List Char :=
  match Double.ofFloat x with
  | .nan => (false, "nan".toList)
  | .infinite negative => (negative, "inf".toList)
  | .finite negative significand exponent =>
    (negative,
      (Fraction.ofBinary significand exponent).text style precision full)

end ApiMount.Decimal
