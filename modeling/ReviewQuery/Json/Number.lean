import ReviewQuery.Decimal.Double

/-!
# JSON numbers

A number without fraction and exponent that fits sixty-four bits is kept as an integer, every other
number as a double.  Integers are written in decimal.  Doubles are written with the fewest digits
that read back and always show that they are doubles, by a point or by an exponent.
-/

namespace ReviewQuery.Json

/-- A decoded number. -/
inductive Number where
  | integer (value : Int)
  | double (value : Float)

namespace Number

/-! ## Written form -/

/-- The exponents of the leading digit for which a double is written without an exponent. -/
def isPositional (leading : Int) : Bool :=
  -5 ≤ leading && leading < 16

/-- The decimal digits of a whole number. -/
def digits (n : Nat) : List Char :=
  Nat.toDigits 10 n

/-- A magnitude written without an exponent, with at least one digit on each side of the point. -/
def renderPositional (number : Decimal.Numeral) : List Char :=
  let shown := digits number.digits
  let places := (-number.exponent).toNat
  if 0 ≤ number.exponent then
    shown ++ List.replicate number.exponent.toNat '0' ++ ['.', '0']
  else if places < shown.length then
    shown.take (shown.length - places) ++ ['.'] ++ shown.drop (shown.length - places)
  else
    ['0', '.'] ++ List.replicate (places - shown.length) '0' ++ shown

/-- A magnitude written as one digit, the other digits after a point if there are any, and the
exponent of the first digit with its sign. -/
def renderScientific (number : Decimal.Numeral) : List Char :=
  let shown := digits number.digits
  let leading := (shown.length : Int) - 1 + number.exponent
  let fraction := if shown.length = 1 then [] else '.' :: shown.drop 1
  let sign := if leading < 0 then '-' else '+'
  shown.take 1 ++ fraction ++ ['e', sign] ++ digits leading.natAbs

/-- A magnitude in the notation that its size asks for. -/
def renderMagnitude (number : Decimal.Numeral) : List Char :=
  let leading := ((digits number.digits).length : Int) - 1 + number.exponent
  if isPositional leading then renderPositional number else renderScientific number

/-- The text of a double.  There is no number for infinities and the undefined value, so they are
written as `null`. -/
def renderDouble (x : Float) : List Char :=
  let sign := if Decimal.Double.isNegative x then ['-'] else []
  if !Decimal.Double.isNumber x then ['n', 'u', 'l', 'l']
  else if (Decimal.Double.magnitude x).significand = 0 then sign ++ ['0', '.', '0']
  else sign ++ renderMagnitude (Decimal.shortest x)

/-- The text of an integer. -/
def renderInteger (value : Int) : List Char :=
  if value < 0 then '-' :: digits value.natAbs else digits value.natAbs

/-- The text of a number. -/
def render : Number → List Char
  | .integer value => renderInteger value
  | .double value => renderDouble value

end Number

end ReviewQuery.Json
