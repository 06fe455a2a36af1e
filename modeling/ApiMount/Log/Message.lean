/-
The message of a record with its arguments filled in. Without arguments
a message stands as it is, percent signs included. With arguments every
conversion takes the next one, and none may be left over, except that a
table whose members can be asked for need not be used. The result is
loose text: one conversion writes a code point, and that may be half of a
surrogate pair.

What is spelled out in decimal must not be too long, and what is spelled
out with its parts must not be too deep for the room that there is. In
any other base an integer may have any length.

`fillIn` walks over a message; each turn takes at least one character of
it, so the number of characters is enough turns.
-/
import ApiMount.Decimal.Rounded
import ApiMount.Log.Conversion
import ApiMount.Text.Loose

namespace ApiMount.Log

open Json Text

-- ============================================================== layout

/-- Blanks that fill a text up to a width. -/
def gap {α : Type} (width length : Nat) (blank : α) : List α :=
  List.replicate (width - length) blank

/-- A text in its field; a precision cuts it. -/
def Conversion.layText (c : Conversion) (text : LooseText) : LooseText :=
  let shown :=
    match c.precision with
    | some n => text.take n
    | none => text
  let blanks := gap c.width shown.length (.char ' ')
  if c.flags.left then shown ++ blanks else blanks ++ shown

/-- A number in its field: sign, mark of the base, digits. Zeros that
fill the field stand before the digits, blanks before the sign. -/
def Conversion.layNumber (c : Conversion) (negative : Bool)
    (mark digits : List Char) : List Char :=
  let sign :=
    if negative then ['-']
    else if c.flags.plus then ['+']
    else if c.flags.blank then [' ']
    else []
  let length := sign.length + mark.length + digits.length
  if c.flags.left then sign ++ mark ++ digits ++ gap c.width length ' '
  else if c.flags.zeros then
    sign ++ mark ++ gap c.width length '0' ++ digits
  else gap c.width length ' ' ++ sign ++ mark ++ digits

-- ============================================================= numbers

/-- The integer that a double is cut to. -/
def truncate (x : Float) : Formatted Int :=
  match Decimal.Double.ofFloat x with
  | .nan => .error .notANumber
  | .infinite _ => .error .infiniteInteger
  | .finite negative significand exponent =>
    let f := Decimal.Fraction.ofBinary significand exponent
    let n : Int := f.num / f.den
    .ok (if negative then -n else n)

/-- A value as a decimal integer; a double is cut. -/
def Conversion.decimalValue (c : Conversion) (v : Json) : Formatted Int :=
  match v with
  | .float x => truncate x
  | other =>
    match integer? other with
    | some n => .ok n
    | none => .error (.realExpected c.letter other.kindName)

/-- A value as an integer in another base. -/
def Conversion.integerValue (c : Conversion) (v : Json) : Formatted Int :=
  match integer? v with
  | some n => .ok n
  | none => .error (.integerExpected c.letter v.kindName)

/-- The double next to an integer, unless it is out of range. -/
def doubleOf (n : Int) : Formatted Float :=
  let bits := Decimal.nearestBits n.natAbs 1
  if n = 0 then .ok 0.0
  else if bits < Decimal.infinityBits then
    .ok (Decimal.ofMagnitude (n < 0) bits)
  else .error .integerTooLarge

/-- A value as a double. -/
def doubleValue (v : Json) : Formatted Float :=
  match v with
  | .float x => .ok x
  | other =>
    match integer? other with
    | some n => doubleOf n
    | none => .error (.floatExpected other.kindName)

/-- An integer in a base, with at least as many digits as the precision
says. -/
def Conversion.writeInteger (c : Conversion) (base : Nat)
    (mark : List Char) (n : Int) : List Char :=
  let digits := Nat.toDigits base n.natAbs
  let zeros := gap (c.precision.getD 0) digits.length '0'
  c.layNumber (n < 0) (if c.flags.alternate then mark else [])
    (zeros ++ digits)

/-- An integer in decimal, if it is not too long. -/
def Conversion.writeDecimal (c : Conversion) (n : Int) :
    Formatted (List Char) :=
  if digitLimit < (digits n.natAbs).length then
    .error (.overrun .tooLong)
  else .ok (c.writeInteger 10 [] n)

/-- A double in a style; the precision is six if none is given. -/
def Conversion.writeDouble (c : Conversion) (style : Decimal.Style)
    (capitals : Bool) (x : Float) : List Char :=
  let (negative, text) :=
    Decimal.roundedText style (c.precision.getD 6) c.flags.alternate x
  c.layNumber negative []
    (if capitals then text.map Char.toUpper else text)

-- =============================================================== texts

/-- What a message spells out of a value. -/
def spelled {α : Type} (x : Except Overrun α) : Formatted α :=
  x.mapError .overrun

/-- A literal in ASCII: every other character becomes an escape. -/
def asciiLiteral (literal : List Char) : List Char :=
  literal.flatMap fun c =>
    if c.toNat < 0x80 then [c] else numbered c.toNat

/-- The piece of loose text that a value is: a text of one character, or
a code point. -/
def charValue (v : Json) : Formatted LooseChar :=
  match v with
  | .str s =>
    match s.toList with
    | [c] => .ok (.char c)
    | _ => .error .charExpected
  | other =>
    match integer? other with
    | some n =>
      if 0 ≤ n && n < 0x110000 then .ok (.ofCode n.toNat)
      else .error .charOutOfRange
    | none => .error .charExpected

-- ========================================================= conversions

/-- A number in a conversion, whatever its width and precision; none if
the conversion is to something else. -/
def Conversion.number? (c : Conversion) (v : Json) :
    Option (Formatted (List Char)) :=
  match c.letter with
  | 'd' | 'i' | 'u' => some ((c.decimalValue v).bind c.writeDecimal)
  | 'o' => some ((c.integerValue v).map (c.writeInteger 8 ['0', 'o']))
  | 'x' => some ((c.integerValue v).map (c.writeInteger 16 ['0', 'x']))
  | 'X' =>
    some ((c.integerValue v).map fun n =>
      (c.writeInteger 16 ['0', 'x'] n).map Char.toUpper)
  | 'f' => some ((doubleValue v).map (c.writeDouble .places false))
  | 'F' => some ((doubleValue v).map (c.writeDouble .places true))
  | 'e' => some ((doubleValue v).map (c.writeDouble .exponent false))
  | 'E' => some ((doubleValue v).map (c.writeDouble .exponent true))
  | 'g' => some ((doubleValue v).map (c.writeDouble .digits false))
  | 'G' => some ((doubleValue v).map (c.writeDouble .digits true))
  | _ => none

/-- A value in a conversion, whatever its width and precision; `index` is
where its letter stands in the message. -/
def Conversion.write (c : Conversion) (room index : Nat) (v : Json) :
    Formatted LooseText :=
  match c.letter with
  | 's' =>
    (spelled (v.plainWithin room)).map fun text =>
      c.layText (loosen text)
  | 'r' =>
    (spelled (v.literalWithin room)).map fun text =>
      c.layText (loose text)
  | 'a' =>
    (spelled (v.literalWithin room)).map fun text =>
      c.layText (loose (asciiLiteral text))
  | 'c' =>
    let uncut := { c with precision := none }
    (charValue v).map fun x => uncut.layText [x]
  | other =>
    match c.number? v with
    | some text => text.map loose
    | none => .error (.unknownLetter other index)

/-- The largest width that is laid out. -/
def layoutLimit : Nat := 0x10000000000

/-- The largest precision of an integer. -/
def integerPrecisionLimit : Nat := precisionLimit - 3

/-- The letters of conversions to decimal integers. -/
def decimalLetters : List Char := ['d', 'i', 'u']

/-- The letters of conversions to integers. -/
def integerLetters : List Char := decimalLetters ++ ['o', 'x', 'X']

/-- The integer that a conversion to integers writes of a value. -/
def Conversion.wholeValue (c : Conversion) (v : Json) : Formatted Int :=
  if decimalLetters.contains c.letter then c.decimalValue v
  else c.integerValue v

/-- A value in a conversion. What is too large to be laid out is refused,
but only if the value fits the conversion. A precision is looked at
before the integer is spelled out, a width after that. -/
def Conversion.apply (c : Conversion) (room index : Nat) (v : Json) :
    Formatted LooseText :=
  let long := integerLetters.contains c.letter
    && integerPrecisionLimit < c.precision.getD 0
  if long then do
    let _ ← c.wholeValue v
    .error .precisionTooLarge
  else if layoutLimit < c.width then do
    let _ ← { c with width := 0, precision := none }.write room index v
    .error .fieldTooLarge
  else c.write room index v

/-- Fills arguments into a text, the rest of a message with `total`
characters, where there is room for so many values inside each other. -/
def fillIn (room total : Nat) : (turns : Nat) → List Char → Arguments →
    Formatted LooseText
  | 0, s, _ => .ok (loose s)
  | turns + 1, s, a =>
    match s with
    | [] =>
      if !a.takesKeys && !a.pending.isEmpty then .error .tooManyArguments
      else .ok []
    | '%' :: '%' :: rest =>
      (fillIn room total turns rest a).map (.char '%' :: ·)
    | '%' :: rest => do
      let (c, after, a) ← Conversion.read rest a
      let (v, a) ← a.next
      let text ← c.apply room (total - after.length - 1) v
      return text ++ (← fillIn room total turns after a)
    | x :: rest => (fillIn room total turns rest a).map (.char x :: ·)

/-- A message with arguments filled in. -/
def fill (room : Nat) (message : String) (a : Arguments) :
    Formatted LooseText :=
  let s := message.toList
  fillIn room s.length (s.length + 1) s a

end ApiMount.Log
