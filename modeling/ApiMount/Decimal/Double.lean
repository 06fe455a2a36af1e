/-
Doubles and the decimals that denote them. `Double.ofFloat` opens a
double into sign, significand and power of two, and `nearest` goes the
other way: it is the double next to a positive decimal, the even
neighbour when two are equally near, infinity when the decimal is past
the largest one.

Both sides are exact arithmetic on natural numbers. A decimal far out
of range is answered from its length alone, so a written exponent of any
size costs nothing.
-/

namespace ApiMount.Decimal

/-- What a double denotes: nothing, an infinity, or
`± significand · 2 ^ exponent`. -/
inductive Double where
  | nan
  | infinite (negative : Bool)
  | finite (negative : Bool) (significand : Nat) (exponent : Int)
  deriving DecidableEq, Repr

/-- The powers of two. -/
def twoTo (n : Nat) : Nat := Nat.pow 2 n

/-- The powers of ten. -/
def tenTo (n : Nat) : Nat := Nat.pow 10 n

/-- The exponent of the smallest doubles. -/
def leastExponent : Int := -1074

/-- The bit below which a double holds its fraction, and the leading bit
of the significand of all but the smallest doubles. -/
def leadingBit : Nat := 0x10000000000000

/-- The bit that holds the sign of a double. -/
def signBit : Nat := 0x8000000000000000

/-- The bits of infinity. -/
def infinityBits : Nat := 0x7FF0000000000000

/-- Opens a double. -/
def Double.ofFloat (x : Float) : Double :=
  let bits := x.toBits.toNat
  let negative := bits / signBit == 1
  let field : Nat := bits / leadingBit % 2048
  let fraction : Nat := bits % leadingBit
  if field = 2047 then
    if fraction = 0 then .infinite negative else .nan
  else if field = 0 then .finite negative fraction leastExponent
  else
    .finite negative (leadingBit + fraction) (leastExponent + (field - 1))

/-- `num / den` rounded to a whole number, a half going to the even
neighbour. -/
def roundDiv (num den : Nat) : Nat :=
  let whole := num / den
  let rest := num % den
  if 2 * rest < den then whole
  else if den < 2 * rest then whole + 1
  else whole + whole % 2

/-- `num / den · 2 ^ -e` rounded to a whole number. -/
def roundShifted (num den : Nat) (e : Int) : Nat :=
  if 0 ≤ e then roundDiv num (den * twoTo e.toNat)
  else roundDiv (num * twoTo (-e).toNat) den

/-- The bits, without sign, of the double nearest to `num / den`, both
positive. Counting the significand from the least exponent upwards, a
significand that is rounded up to the next power of two carries into the
exponent field by itself. -/
def nearestBits (num den : Nat) : Nat :=
  let guess := (num.log2 : Int) - den.log2 - 52
  let scaled (e : Int) : Bool :=
    if 0 ≤ e then leadingBit * (den * twoTo e.toNat) ≤ num
    else leadingBit * den ≤ num * twoTo (-e).toNat
  let e := max leastExponent (if scaled guess then guess else guess - 1)
  let bits :=
    (e - leastExponent).toNat * leadingBit + roundShifted num den e
  min bits infinityBits

/-- The double with a sign and the other bits. -/
def ofMagnitude (negative : Bool) (bits : Nat) : Float :=
  Float.ofBits (UInt64.ofNat (if negative then bits + signBit else bits))

/-- How many decimal digits a number has. -/
def digitCount (n : Nat) : Nat := (Nat.toDigits 10 n).length

/-- The double nearest to `± digits · 10 ^ exponent`. -/
def nearest (negative : Bool) (digits : Nat) (exponent : Int) : Float :=
  let leading := exponent + digitCount digits
  let bits :=
    if digits = 0 || leading < -400 then 0
    else if 400 < leading then infinityBits
    else if 0 ≤ exponent then nearestBits (digits * tenTo exponent.toNat) 1
    else nearestBits digits (tenTo (-exponent).toNat)
  ofMagnitude negative bits

end ApiMount.Decimal
