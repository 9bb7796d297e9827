import ReviewQuery.Decimal.Double
import ReviewQuery.Json.Failure

/-!
# Number literals

`Literal.scan` reads the parts of a number literal: the digits of its whole part, of its fraction
and of its exponent.  `Literal.value` then gives the number that the parts stand for.  The digits
are gathered into a whole number of sixty-four bits; a digit that does not fit is dropped, and so
are those after it in the same part.
-/

namespace ReviewQuery.Json

/-- What was read at the start of a text, with the rest of the text. -/
abbrev Reading (α : Type) : Type :=
  α × List Char

/-- The parts of a number literal. -/
structure Literal where
  isNegative : Bool
  whole : List Char
  fraction : Option (List Char)
  /-- Whether the exponent is negative, and its digits. -/
  exponent : Option (Bool × List Char)
  deriving DecidableEq, Repr

namespace Literal

/-! ## Reading the parts -/

/-- The digits at the start of a text and the rest. -/
def spanDigits (text : List Char) : List Char × List Char :=
  (text.takeWhile Char.isDigit, text.dropWhile Char.isDigit)

/-- The whole part: a zero alone, or digits that do not start with a zero.  `atEnd` is the fault
of a text that ends instead. -/
def scanWhole (atEnd : Reason) : List Char → Except Failure (Reading (List Char))
  | [] => .error (.before atEnd [])
  | c :: rest =>
    if c = '0' then
      if (rest.head?.map Char.isDigit).getD false then .error (.atNext .invalidNumber rest)
      else .ok ([c], rest)
    else if c.isDigit then
      .ok (spanDigits (c :: rest))
    else
      .error (.atNext .invalidNumber (c :: rest))

/-- The fraction, if there is a point. -/
def scanFraction (atEnd : Reason) : List Char → Except Failure (Reading (Option (List Char)))
  | '.' :: rest =>
    match spanDigits rest with
    | ([], []) => .error (.before atEnd [])
    | ([], rest) => .error (.atNext .invalidNumber rest)
    | (digits, rest) => .ok (some digits, rest)
  | text => .ok (none, text)

/-- The sign of an exponent, absent or written, and the rest. -/
def scanSign : List Char → Bool × List Char
  | '+' :: rest => (false, rest)
  | '-' :: rest => (true, rest)
  | text => (false, text)

/-- The digits of an exponent behind its sign. -/
def scanExponentDigits
    (atEnd : Reason)
    (text : List Char) : Except Failure (Reading (List Char)) :=
  match spanDigits text with
  | ([], []) => .error (.before atEnd [])
  | ([], rest) => .error (.atNext .invalidNumber rest)
  | (digits, rest) => .ok (digits, rest)

/-- The exponent, if there is the letter that starts one. -/
def scanExponent (atEnd : Reason) :
    List Char → Except Failure (Reading (Option (Bool × List Char)))
  | [] => .ok (none, [])
  | c :: rest =>
    if c = 'e' ∨ c = 'E' then do
      let (isNegative, rest) := scanSign rest
      let (digits, rest) ← scanExponentDigits atEnd rest
      pure (some (isNegative, digits), rest)
    else
      .ok (none, c :: rest)

/-- The parts of a literal behind its sign. -/
def scan
    (atEnd : Reason)
    (isNegative : Bool)
    (text : List Char) : Except Failure (Reading Literal) := do
  let (whole, rest) ← scanWhole atEnd text
  let (fraction, rest) ← scanFraction atEnd rest
  let (exponent, rest) ← scanExponent atEnd rest
  pure (⟨isNegative, whole, fraction, exponent⟩, rest)

/-! ## The number that the parts stand for -/

/-- The value of a decimal digit. -/
def digitValue (c : Char) : Nat :=
  c.toNat - 48

/-- Append digits to a whole number while the result stays below `2 ^ 64`; the second component
counts the digits that are left. -/
def absorb (total : Nat) : List Char → Nat × Nat
  | [] => (total, 0)
  | c :: rest =>
    if total * 10 + digitValue c < 18446744073709551616 then
      absorb (total * 10 + digitValue c) rest
    else
      (total, rest.length + 1)

/-- The number that exponent digits stand for.  The first digit that takes it beyond
`2 ^ 31 - 1` ends the reading, and the number of digits behind that one is the error. -/
def exponentValue (total : Nat) : List Char → Except Nat Nat
  | [] => .ok total
  | c :: rest =>
    if total * 10 + digitValue c ≤ 2147483647 then
      exponentValue (total * 10 + digitValue c) rest
    else
      .error rest.length

/-- A whole number with a sign.  What does not fit sixty-four bits, and the negative zero, is a
double. -/
def wholeNumber (isNegative : Bool) (significand : Nat) : Number :=
  if !isNegative then .integer significand
  else if 1 ≤ significand ∧ significand ≤ 9223372036854775808 then .integer (-significand)
  else .double (-(UInt64.ofNat significand).toFloat)

/-- A double with a sign, unless it is too large; the error counts the digits left unread. -/
def scaled (isNegative : Bool) (significand : Nat) (exponent : Int) : Except Nat Number :=
  match Decimal.scale? (UInt64.ofNat significand) exponent with
  | some x => .ok (.double (if isNegative then -x else x))
  | none => .error 0

/-- The number with a written exponent. -/
def withExponent
    (isNegative : Bool)
    (significand : Nat)
    (places : Int)
    (isSmall : Bool)
    (digits : List Char) : Except Nat Number :=
  match exponentValue 0 digits with
  | .ok value => scaled isNegative significand (if isSmall then places - value else places + value)
  | .error unread =>
    if significand ≠ 0 ∧ !isSmall then .error unread
    else .ok (.double (if isNegative then -0.0 else 0.0))

/-- The number that a literal stands for.  The error counts the digits that were left when the
number turned out to be too large. -/
def value (literal : Literal) : Except Nat Number :=
  let (whole, dropped) := absorb 0 literal.whole
  match literal.fraction, literal.exponent with
  | none, none =>
    if dropped = 0 then .ok (wholeNumber literal.isNegative whole)
    else scaled literal.isNegative whole dropped
  | none, some (isSmall, digits) =>
    withExponent literal.isNegative whole dropped isSmall digits
  | some fraction, exponent =>
    let (significand, left) := absorb whole fraction
    let places := (dropped : Int) - (fraction.length - left : Nat)
    match exponent with
    | none => scaled literal.isNegative significand places
    | some (isSmall, digits) =>
      withExponent literal.isNegative significand places isSmall digits

end Literal

/-- The number at the start of a text, behind its sign. -/
def scanNumber (isNegative : Bool) (text : List Char) : Except Failure (Reading Number) := do
  let (literal, rest) ← Literal.scan .unfinishedValue isNegative text
  match literal.value with
  | .ok number => pure (number, rest)
  | .error unread => .error ⟨.numberOutOfRange, Text.Utf8.size rest + unread⟩

/-! ## What is read is gone -/

theorem length_lt_of_spanDigits
    {text : List Char}
    {c : Char}
    {rest : List Char}
    (h : text = c :: rest)
    (digit : c.isDigit = true) :
    (Literal.spanDigits text).2.length < text.length := by
  subst h
  have := (List.dropWhile_suffix (l := rest) Char.isDigit).length_le
  simp only [Literal.spanDigits, List.dropWhile_cons, digit, if_true, List.length_cons]
  omega

theorem length_spanDigits_le (text : List Char) :
    (Literal.spanDigits text).2.length ≤ text.length :=
  (List.dropWhile_suffix Char.isDigit).length_le

theorem length_lt_of_scanWhole
    {atEnd : Reason}
    {text digits rest : List Char}
    (h : Literal.scanWhole atEnd text = .ok (digits, rest)) :
    rest.length < text.length := by
  unfold Literal.scanWhole at h
  split at h
  · cases h
  · split at h
    · split at h
      · cases h
      · cases h
        simp
    · split at h
      · rename_i c tail _ digit
        have short := length_lt_of_spanDigits (rfl : c :: tail = c :: tail) digit
        injection h with pair
        rw [pair] at short
        exact short
      · cases h

theorem length_le_of_scanFraction
    {atEnd : Reason}
    {text rest : List Char}
    {fraction : Option (List Char)}
    (h : Literal.scanFraction atEnd text = .ok (fraction, rest)) :
    rest.length ≤ text.length := by
  unfold Literal.scanFraction at h
  split at h
  · rename_i tail
    have bound := length_spanDigits_le tail
    split at h
    · cases h
    · cases h
    · rename_i spanned
      rw [spanned] at bound
      cases h
      simp only [List.length_cons] at *
      omega
  · cases h
    exact Nat.le_refl _

theorem length_scanSign_le (text : List Char) :
    (Literal.scanSign text).2.length ≤ text.length := by
  unfold Literal.scanSign
  split <;> simp

theorem length_le_of_scanExponentDigits
    {atEnd : Reason}
    {text digits rest : List Char}
    (h : Literal.scanExponentDigits atEnd text = .ok (digits, rest)) :
    rest.length ≤ text.length := by
  have bound := length_spanDigits_le text
  unfold Literal.scanExponentDigits at h
  split at h
  · cases h
  · cases h
  · rename_i spanned
    rw [spanned] at bound
    cases h
    exact bound

theorem length_le_of_scanExponent
    {atEnd : Reason}
    {text rest : List Char}
    {exponent : Option (Bool × List Char)}
    (h : Literal.scanExponent atEnd text = .ok (exponent, rest)) :
    rest.length ≤ text.length := by
  unfold Literal.scanExponent at h
  split at h
  · cases h
    exact Nat.le_refl _
  · rename_i c tail
    split at h
    · simp only [bind, Except.bind] at h
      split at h
      · cases h
      · rename_i scanned
        have first := length_scanSign_le tail
        have second := length_le_of_scanExponentDigits scanned
        cases h
        simp only [List.length_cons]
        omega
    · cases h
      exact Nat.le_refl _

theorem length_lt_of_scan
    {atEnd : Reason}
    {isNegative : Bool}
    {text rest : List Char}
    {literal : Literal}
    (h : Literal.scan atEnd isNegative text = .ok (literal, rest)) :
    rest.length < text.length := by
  simp only [Literal.scan, bind, Except.bind, pure, Except.pure] at h
  split at h
  · cases h
  · rename_i first
    have := length_lt_of_scanWhole first
    split at h
    · cases h
    · rename_i second
      have := length_le_of_scanFraction second
      split at h
      · cases h
      · rename_i third
        have := length_le_of_scanExponent third
        cases h
        omega

theorem length_lt_of_scanNumber
    {isNegative : Bool}
    {text rest : List Char}
    {number : Number}
    (h : scanNumber isNegative text = .ok (number, rest)) :
    rest.length < text.length := by
  simp only [scanNumber, bind, Except.bind, pure, Except.pure] at h
  split at h
  · cases h
  · rename_i scanned
    have := length_lt_of_scan scanned
    split at h
    · cases h
      omega
    · cases h

end ReviewQuery.Json
