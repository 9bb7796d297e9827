/-!
# Doubles and decimals

A decimal with many digits is read as a whole number of at most sixty-four bits times a power of
ten.  The product is taken with one rounding for the whole number, one for the power and one for
the result, so it can differ in its last bit from the double nearest to the decimal.

The other way round, the bit pattern of a double stands for `significand * 2 ^ exponent` up to its
sign.  Among the decimals that round to the double, `shortest` takes one with the fewest digits, of
those the one nearest to the double, and of two equally near ones the one whose last digit is even.
All comparisons are made on natural numbers, so nothing is lost to rounding on the way.
-/

namespace ReviewQuery.Decimal

/-! ## Doubles from a whole number and a power of ten -/

/-- The largest exponent of ten that a double can hold. -/
def largestExponent : Nat := 308

/-- The double nearest to `10 ^ exponent`, for exponents up to `largestExponent`. -/
def powerOfTen (exponent : Nat) : Float :=
  Float.ofScientific 1 false exponent

/-- The quotient of a double by `10 ^ exponent`, taken in steps of at most `largestExponent`
places.  It stops early at zero. -/
def shrink (x : Float) (exponent : Nat) : Float :=
  if exponent ≤ largestExponent then
    x / powerOfTen exponent
  else if x == 0.0 then
    x
  else
    shrink (x / powerOfTen largestExponent) (exponent - largestExponent)
termination_by exponent
decreasing_by
  simp only [largestExponent] at *
  omega

/-- The double `significand * 10 ^ exponent`, or `none` if it is too large for one. -/
def scale? (significand : UInt64) (exponent : Int) : Option Float :=
  let x := significand.toFloat
  if exponent < 0 then
    some (shrink x (-exponent).toNat)
  else if exponent.toNat ≤ largestExponent then
    let product := x * powerOfTen exponent.toNat
    if product.isInf then none else some product
  else if x == 0.0 then
    some x
  else
    none

/-! ## Doubles as exact numbers -/

/-- A magnitude `significand * 2 ^ exponent`. -/
structure Binary where
  significand : Nat
  exponent : Int

namespace Double

/-- The number of values of the fraction field, which is `2 ^ 52`. -/
def fractionCount : Nat := 4503599627370496

/-- The number of values of the exponent field, which is `2 ^ 11`. -/
def exponentCount : Nat := 2048

/-- Whether the sign bit is set. -/
def isNegative (x : Float) : Bool :=
  x.toBits.toNat / fractionCount / exponentCount = 1

/-- The eleven bits of the exponent field. -/
def exponentField (x : Float) : Nat :=
  x.toBits.toNat / fractionCount % exponentCount

/-- The fifty-two bits of the fraction field. -/
def fractionField (x : Float) : Nat :=
  x.toBits.toNat % fractionCount

/-- Whether a double is a number, neither an infinity nor undefined. -/
def isNumber (x : Float) : Bool :=
  exponentField x + 1 < exponentCount

/-- The magnitude of a double that is a number. -/
def magnitude (x : Float) : Binary :=
  if exponentField x = 0 then ⟨fractionField x, -1074⟩
  else ⟨fractionCount + fractionField x, (exponentField x : Int) - 1075⟩

/-- Whether the next smaller magnitude is only half as far away as the next larger one, which is
so at the powers of two. -/
def isLowerGapHalf (x : Float) : Bool :=
  fractionField x = 0 && 1 < exponentField x

end Double

/-! ## The fewest digits that read back -/

/-- A magnitude `digits * 10 ^ exponent`. -/
structure Numeral where
  digits : Nat
  exponent : Int

/-- The number of decimal digits, one for zero. -/
def digitCount (n : Nat) : Nat :=
  (Nat.toDigits 10 n).length

/-- The exponent of the leading decimal digit of a positive quotient. -/
def leadingExponent (numerator denominator : Nat) : Int :=
  if denominator ≤ numerator then
    digitCount (numerator / denominator) - 1
  else
    let places := digitCount (denominator / numerator)
    if numerator * Nat.pow 10 (places - 1) = denominator then 1 - (places : Int)
    else -(places : Int)

/-- The reals that round to one double, as quotients over one denominator. -/
structure Interval where
  low : Nat
  value : Nat
  high : Nat
  denominator : Nat
  includesEnds : Bool

/-- The reals that round to a double other than zero.  Both ends are halfway to a neighbour, and
belong to the interval if the significand is even. -/
def Interval.ofDouble (x : Float) : Interval :=
  let m := (Double.magnitude x).significand
  let q := (Double.magnitude x).exponent - 2
  let scale := Nat.pow 2 q.toNat
  let lowGap := if Double.isLowerGapHalf x then 1 else 2
  { low := (4 * m - lowGap) * scale
    value := 4 * m * scale
    high := (4 * m + 2) * scale
    denominator := Nat.pow 2 (-q).toNat
    includesEnds := m % 2 = 0 }

/-- Whether `digits * 10 ^ exponent` lies in the interval. -/
def Interval.holds (range : Interval) (candidate : Numeral) : Bool :=
  let point := candidate.digits * Nat.pow 10 candidate.exponent.toNat * range.denominator
  let scale := Nat.pow 10 (-candidate.exponent).toNat
  if range.includesEnds then
    range.low * scale ≤ point && point ≤ range.high * scale
  else
    range.low * scale < point && point < range.high * scale

/-- The decimals next to the value among the multiples of `10 ^ exponent`, the nearer one first;
of two equally near ones the even one comes first. -/
def Interval.neighbours (range : Interval) (exponent : Int) : List Numeral :=
  let unit := Nat.pow 10 exponent.toNat * range.denominator
  let scaled := range.value * Nat.pow 10 (-exponent).toNat
  let below := scaled / unit
  let remainder := scaled % unit
  let isBelowFirst :=
    2 * remainder < unit || (2 * remainder = unit && below % 2 = 0)
  if isBelowFirst then [⟨below, exponent⟩, ⟨below + 1, exponent⟩]
  else [⟨below + 1, exponent⟩, ⟨below, exponent⟩]

/-- The first decimal of the interval with `count` digits, then with one more, and so on for
`rounds` rounds. -/
def Interval.search (range : Interval) (leading : Int) (count : Nat) : Nat → Option Numeral
  | 0 => none
  | rounds + 1 =>
    match (range.neighbours (leading - (count : Int) + 1)).find? range.holds with
    | some found => some found
    | none => range.search leading (count + 1) rounds

/-- A decimal of the same value that does not end in the digit zero. -/
def Numeral.trim (number : Numeral) : Numeral :=
  if h : number.digits ≠ 0 ∧ number.digits % 10 = 0 then
    Numeral.trim ⟨number.digits / 10, number.exponent + 1⟩
  else
    number
termination_by number.digits
decreasing_by omega

/-- The shortest decimal that rounds to a double other than zero.  Seventeen digits always
suffice. -/
def shortest (x : Float) : Numeral :=
  let range := Interval.ofDouble x
  let leading := leadingExponent range.value range.denominator
  match range.search leading 1 17 with
  | some found => found.trim
  | none => ⟨0, 0⟩

end ReviewQuery.Decimal
