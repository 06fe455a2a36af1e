/-
The shortest decimal of a double: the fewest digits that read back as
the same double, and of those the nearest to its value.

A decimal reads back as the double exactly when it lies in the interval
halfway to the neighbouring doubles; the ends belong to it when the
significand is even. For one digit, two digits and so on up to
seventeen, the two points of that decimal grid next to the value are
tested, because if any point of a grid lies in the interval, so does one
of these two. All comparisons are between natural numbers.
-/
import ApiMount.Decimal.Double

namespace ApiMount.Decimal

/-- A positive decimal, `digits · 10 ^ exponent`. -/
structure Digits where
  digits : Nat
  exponent : Int
  deriving DecidableEq, Repr

/-- A positive value `mid / den` with the bounds `low / den` and
`high / den` of what reads back as it. -/
structure Interval where
  low : Nat
  mid : Nat
  high : Nat
  den : Nat
  closed : Bool

/-- The decimals that read back as `significand · 2 ^ exponent`. Below a
power of two the doubles lie twice as close. -/
def Interval.around (significand : Nat) (exponent : Int) : Interval :=
  let below :=
    if significand = leadingBit && leastExponent < exponent then 1 else 2
  let shift := exponent - 2
  let scale := twoTo shift.toNat
  { low := (4 * significand - below) * scale
    mid := 4 * significand * scale
    high := (4 * significand + 2) * scale
    den := twoTo (-shift).toNat
    closed := significand % 2 == 0 }

/-- Whether `d · 10 ^ k` lies in the interval. -/
def Interval.holds (i : Interval) (d : Nat) (k : Int) : Bool :=
  let point := d * tenTo k.toNat * i.den
  let scale := tenTo (-k).toNat
  if i.closed then i.low * scale ≤ point && point ≤ i.high * scale
  else i.low * scale < point && point < i.high * scale

/-- The power of ten of a positive fraction's leading digit. -/
def leadingPower (num den : Nat) : Int :=
  let guess := (digitCount num : Int) - digitCount den
  let reached :=
    if 0 ≤ guess then den * tenTo guess.toNat ≤ num
    else den ≤ num * tenTo (-guess).toNat
  if reached then guess else guess - 1

/-- The point of the grid of multiples of `10 ^ k` in the interval that
is nearest to the value; the even one of two equally near. -/
def Interval.nearestOn (i : Interval) (k : Int) : Option Nat :=
  let num := i.mid * tenTo (-k).toNat
  let den := i.den * tenTo k.toNat
  let floor := num / den
  match i.holds floor k, i.holds (floor + 1) k with
  | false, false => none
  | true, false => some floor
  | false, true => some (floor + 1)
  | true, true => some (roundDiv num den)

/-- Moves the zeros at the end of the digits into the exponent. -/
def Digits.strip : (fuel : Nat) → Digits → Digits
  | 0, d => d
  | fuel + 1, d =>
    if d.digits ≠ 0 ∧ d.digits % 10 = 0 then
      strip fuel ⟨d.digits / 10, d.exponent + 1⟩
    else d

/-- The nearest decimal of fewest digits, trying `count` digits and
more. -/
def Interval.shortest (i : Interval) (leading : Int) :
    (steps count : Nat) → Digits
  | 0, count =>
    let k := leading - count + 1
    ⟨roundDiv (i.mid * tenTo (-k).toNat) (i.den * tenTo k.toNat), k⟩
  | steps + 1, count =>
    let k := leading - count + 1
    match i.nearestOn k with
    | some d => ⟨d, k⟩
    | none => i.shortest leading steps (count + 1)

/-- The shortest decimal that reads back as
`significand · 2 ^ exponent`, without zeros at its end. -/
def shortest (significand : Nat) (exponent : Int) : Digits :=
  let i := Interval.around significand exponent
  (i.shortest (leadingPower i.mid i.den) 16 1).strip 20

end ApiMount.Decimal
