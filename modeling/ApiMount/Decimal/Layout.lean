/-
How the shortest decimal of a double is laid out. Formats agree on the
digits and differ in a few decisions, so those are a record: which
powers of ten of the leading digit are written positionally, how many
digits an exponent has at least, and what stands for the values that
have no digits.
-/
import ApiMount.Decimal.Shortest

namespace ApiMount.Decimal

/-- The decisions of a float format. A leading digit worth
`10 ^ least` to `10 ^ most` is written positionally, any other number
with a signed exponent of at least `exponentWidth` digits. -/
structure Layout where
  least : Int
  most : Int
  exponentWidth : Nat
  nan : String
  infinity : String
  minusInfinity : String

/-- Digits with a point in the place that the exponent says; at least
one digit stands on either side. -/
def positional (digits : List Char) (leading : Int) : List Char :=
  if leading < 0 then
    "0.".toList ++ List.replicate ((-leading).toNat - 1) '0' ++ digits
  else
    let whole := leading.toNat + 1
    if digits.length ≤ whole then
      digits ++ List.replicate (whole - digits.length) '0' ++ ".0".toList
    else digits.take whole ++ '.' :: digits.drop whole

/-- A number with at least `width` digits, zeros in front. -/
def padded (width n : Nat) : List Char :=
  let digits := Nat.toDigits 10 n
  List.replicate (width - digits.length) '0' ++ digits

/-- One digit, the others after a point, and a signed exponent. -/
def scientific (digits : List Char) (leading : Int) (width : Nat) :
    List Char :=
  let fraction := if digits.length ≤ 1 then [] else '.' :: digits.drop 1
  let sign := if leading < 0 then '-' else '+'
  digits.take 1 ++ fraction ++ 'e' :: sign :: padded width leading.natAbs

/-- The text of a double in a layout. -/
def Layout.text (l : Layout) (x : Float) : String :=
  match Double.ofFloat x with
  | .nan => l.nan
  | .infinite false => l.infinity
  | .infinite true => l.minusInfinity
  | .finite negative 0 _ => if negative then "-0.0" else "0.0"
  | .finite negative significand exponent =>
    let d := shortest significand exponent
    let digits := Nat.toDigits 10 d.digits
    let leading := d.exponent + digits.length - 1
    let body :=
      if l.least ≤ leading && leading ≤ l.most then
        positional digits leading
      else scientific digits leading l.exponentWidth
    String.ofList (if negative then '-' :: body else body)

end ApiMount.Decimal
