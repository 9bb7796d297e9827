import Mathlib.Data.List.TakeWhile
import Mathlib.Tactic.SplitIfs
import ReviewQuery.Json.Scalar
import ReviewQuery.Proofs.Json.CompactText
import ReviewQuery.Proofs.Text.Hexadecimal
import ReviewQuery.Proofs.Text.Span

/-!
# Reading back strings and integers

The scanners for strings and numbers undo what the compact text does.  A string ends at its closing
quote, so nothing has to be known about what follows.  A number ends where no digit, point or
exponent follows, and an integer is read back as the same integer within the bounds of sixty-four
bits.
-/

namespace ReviewQuery.Json

/-! ## Hexadecimal escapes -/

/-- The four digits of a code unit below `256` are read back. -/
theorem scanUnit_lower
    {code : Nat}
    (small : code < 256)
    (rest : List Char) :
    scanUnit ('0' :: '0' :: Text.Hexadecimal.lower (code / 16) ::
        Text.Hexadecimal.lower (code % 16) :: rest) =
      .ok (code, rest) := by
  have high := Text.Hexadecimal.value?_lower (code / 16) (by omega)
  have low := Text.Hexadecimal.value?_lower (code % 16) (by omega)
  have zero : Text.Hexadecimal.value? '0' = some 0 := by decide
  have number :
      Text.Hexadecimal.number? ['0', '0', Text.Hexadecimal.lower (code / 16),
        Text.Hexadecimal.lower (code % 16)] = some code := by
    simp only [Text.Hexadecimal.number?, List.foldlM_cons, List.foldlM_nil, zero, high, low,
      Option.map_some, Option.bind_eq_bind, Option.bind_some, Option.pure_def]
    congr 1
    omega
  simp only [scanUnit, number]

/-! ## Strings -/

/-- A character in front of what was read of a string. -/
def consChar (c : Char) : Reading (List Char) → Reading (List Char)
  | (chars, rest) => (c :: chars, rest)

theorem scanString_backslash
    {c : Char}
    {text rest : List Char}
    (escape : scanEscape text = .ok (c, rest)) :
    scanString ('\\' :: text) = (scanString rest).map (consChar c) := by
  rw [scanString, if_neg (by decide), if_pos rfl]
  split
  · rename_i failed
    rw [escape] at failed
    cases failed
  · rename_i scanned
    rw [escape] at scanned
    cases scanned
    cases scanString rest with
    | error failure => rfl
    | ok reading => rfl

theorem scanString_plain
    {c : Char}
    (notQuote : c ≠ '"')
    (notBackslash : c ≠ '\\')
    (graphic : ¬ c.toNat < 0x20)
    (rest : List Char) :
    scanString (c :: rest) = (scanString rest).map (consChar c) := by
  rw [scanString, if_neg notQuote, if_neg notBackslash, if_neg graphic]
  cases scanString rest with
  | error failure => rfl
  | ok reading => rfl

/-- What is written for a character is read as that character. -/
theorem scanString_escapeChar (c : Char) (rest : List Char) :
    scanString (escapeChar c ++ rest) = (scanString rest).map (consChar c) := by
  cases escapeForm c with
  | letter written stands =>
      rw [written]
      apply scanString_backslash
      show scanEscape (_ :: rest) = _
      rw [scanEscape, if_neg (ne_of_simpleEscape? stands), stands]
  | digits written control =>
      rw [written]
      apply scanString_backslash
      show scanEscape ('u' :: _) = _
      have notTrailing : isTrailing c.toNat = false := by
        simp [isTrailing]
        omega
      have notLeading : isLeading c.toNat = false := by
        simp [isLeading]
        omega
      simp only [scanEscape, if_true, scanUnit_lower (show c.toNat < 256 by omega), notTrailing,
        notLeading, Bool.false_eq_true, if_false, List.append_eq, List.nil_append,
        List.cons_append, Char.ofNat_toNat]
  | plain written notQuote notBackslash graphic =>
      rw [written]
      exact scanString_plain notQuote notBackslash graphic rest

/-- The characters of a string are read back up to its closing quote. -/
theorem scanString_escaped (chars rest : List Char) :
    scanString (chars.flatMap escapeChar ++ '"' :: rest) = .ok (chars, rest) := by
  induction chars with
  | nil =>
      rw [List.flatMap_nil, List.nil_append, scanString, if_pos rfl]
  | cons c chars ih =>
      rw [List.flatMap_cons, List.append_assoc, scanString_escapeChar, ih]
      rfl

/-- A quoted string is read back. -/
theorem scanScalar_renderString (text : String) (rest : List Char) :
    scanScalar (renderString text ++ rest) = .ok (.string text, rest) := by
  have scanned := scanString_escaped text.toList rest
  show (scanString ((text.toList.flatMap escapeChar ++ ['"']) ++ rest)).map _ = _
  rw [List.append_assoc, List.singleton_append, scanned]
  simp only [Except.map, String.ofList_toList]

/-! ## Digits -/

/-- Whether a number ends in front of a text. -/
def EndsNumber (text : List Char) : Prop :=
  ∀ c ∈ text.head?, c.isDigit = false ∧ c ≠ '.' ∧ c ≠ 'e' ∧ c ≠ 'E'

theorem endsNumber_nil : EndsNumber [] := by
  rintro c ⟨⟩

theorem spanDigits_append
    {digits rest : List Char}
    (allDigits : ∀ c ∈ digits, c.isDigit = true)
    (ends : ∀ c ∈ rest.head?, c.isDigit = false) :
    Literal.spanDigits (digits ++ rest) = (digits, rest) := by
  rw [Literal.spanDigits, Text.takeWhile_append_of_stops allDigits ends,
    Text.dropWhile_append_of_stops allDigits ends]

theorem ne_of_isDigit
    {c d : Char}
    (digit : c.isDigit = true)
    (noDigit : d.isDigit = false) :
    c ≠ d := by
  rintro rfl
  rw [digit] at noDigit
  cases noDigit

theorem isBlank_of_isDigit {c : Char} (digit : c.isDigit = true) : isBlank c = false := by
  rw [← Bool.not_eq_true]
  intro blank
  simp only [isBlank, Bool.or_eq_true, decide_eq_true_eq] at blank
  rcases blank with ((rfl | rfl) | rfl) | rfl <;> cases digit

theorem digitChar_ne_zero (n : Nat) (small : n < 10) : 0 < n → n.digitChar ≠ '0' := by
  revert n
  decide

/-- A whole number other than zero does not start with the digit zero. -/
theorem head?_digits_ne_zero {n : Nat} (positive : 0 < n) :
    (Number.digits n).head? ≠ some '0' := by
  induction n using Nat.strongRecOn with
  | ind n ih =>
      unfold Number.digits at *
      rw [Nat.toDigits_eq_if (by decide)]
      split
      · rename_i small
        intro zero
        exact digitChar_ne_zero n small positive (Option.some.inj zero)
      · intro zero
        rw [List.head?_append, Option.or_eq_some_iff] at zero
        rcases zero with first | ⟨empty, _⟩
        · exact ih (n / 10) (by omega) (by omega) first
        · exact Nat.toDigits_ne_nil (List.head?_eq_none_iff.mp empty)

/-- Digits of which only a lone zero starts with a zero are read as a whole part; a zero at the
front is the whole number then. -/
theorem scanWhole_append
    (atEnd : Reason)
    {digits rest : List Char}
    (nonempty : digits ≠ [])
    (allDigits : ∀ c ∈ digits, c.isDigit = true)
    (alone : digits.head? = some '0' → digits = ['0'])
    (ends : ∀ c ∈ rest.head?, c.isDigit = false) :
    Literal.scanWhole atEnd (digits ++ rest) = .ok (digits, rest) := by
  have spanned := spanDigits_append allDigits ends
  cases digits with
  | nil => exact absurd rfl nonempty
  | cons d others =>
      have digit : d.isDigit = true := allDigits d List.mem_cons_self
      rw [List.cons_append, Literal.scanWhole]
      split
      · rename_i zero
        subst zero
        cases alone rfl
        have closed : (rest.head?.map Char.isDigit).getD false = false := by
          cases rest with
          | nil => rfl
          | cons c rest => exact ends c rfl
        simp only [List.nil_append, closed, Bool.false_eq_true, if_false]
      · exact congrArg Except.ok spanned

/-- The digits of a whole number are read as its whole part. -/
theorem scanWhole_digits
    (atEnd : Reason)
    (n : Nat)
    {rest : List Char}
    (ends : ∀ c ∈ rest.head?, c.isDigit = false) :
    Literal.scanWhole atEnd (Number.digits n ++ rest) = .ok (Number.digits n, rest) := by
  refine scanWhole_append atEnd Nat.toDigits_ne_nil
    (fun c member => Number.isDigit_of_mem_digits member) ?_ ends
  intro zero
  have isZero : n = 0 := by
    by_contra nonzero
    exact head?_digits_ne_zero (Nat.pos_of_ne_zero nonzero) zero
  rw [isZero]
  rfl

/-- The parts of a literal that consists of the digits of a whole number. -/
theorem scan_digits
    (isNegative : Bool)
    (n : Nat)
    {rest : List Char}
    (ends : EndsNumber rest) :
    Literal.scan .unfinishedValue isNegative (Number.digits n ++ rest) =
      .ok (⟨isNegative, Number.digits n, none, none⟩, rest) := by
  have whole := scanWhole_digits .unfinishedValue n fun c member => (ends c member).1
  have fraction : Literal.scanFraction .unfinishedValue rest = .ok (none, rest) := by
    unfold Literal.scanFraction
    split
    · exact absurd rfl (ends '.' rfl).2.1
    · rfl
  have exponent : Literal.scanExponent .unfinishedValue rest = .ok (none, rest) := by
    cases rest with
    | nil => rfl
    | cons c rest =>
        have letter : ¬ (c = 'e' ∨ c = 'E') :=
          not_or.mpr (ends c rfl).2.2
        rw [Literal.scanExponent, if_neg letter]
  rw [Literal.scan, whole]
  simp only [bind, Except.bind, fraction, exponent, pure, Except.pure]

/-! ## Integers -/

theorem le_ofDigitChars (chars : List Char) (total : Nat) :
    total ≤ Nat.ofDigitChars 10 chars total := by
  induction chars generalizing total with
  | nil => exact Nat.le_of_eq Nat.ofDigitChars_nil.symm
  | cons c chars ih =>
      rw [Nat.ofDigitChars_cons]
      have := ih (10 * total + (c.toNat - '0'.toNat))
      omega

/-- Digits that stay below the bound of sixty-four bits are all taken in. -/
theorem absorb_eq
    {chars : List Char}
    {total : Nat}
    (small : Nat.ofDigitChars 10 chars total < 18446744073709551616) :
    Literal.absorb total chars = (Nat.ofDigitChars 10 chars total, 0) := by
  induction chars generalizing total with
  | nil => rfl
  | cons c chars ih =>
      have next :
          10 * total + (c.toNat - '0'.toNat) = total * 10 + Literal.digitValue c := by
        rw [Nat.mul_comm]
        rfl
      rw [Nat.ofDigitChars_cons, next] at small ⊢
      have bound := le_ofDigitChars chars (total * 10 + Literal.digitValue c)
      rw [Literal.absorb, if_pos (by omega)]
      exact ih small

theorem absorb_digits
    {n : Nat}
    (small : n < 18446744073709551616) :
    Literal.absorb 0 (Number.digits n) = (n, 0) := by
  have same : Nat.ofDigitChars 10 (Number.digits n) 0 = n :=
    Nat.ofDigitChars_ten_toDigits
  rw [absorb_eq (by rw [same]; exact small), same]

/-- The digits of a whole number of sixty-four bits, behind the sign, are read as that number. -/
theorem scanNumber_digits
    (isNegative : Bool)
    {n : Nat}
    (small : n < 18446744073709551616)
    {rest : List Char}
    (ends : EndsNumber rest) :
    scanNumber isNegative (Number.digits n ++ rest) =
      .ok (Literal.wholeNumber isNegative n, rest) := by
  rw [scanNumber, scan_digits isNegative n ends]
  simp only [bind, Except.bind, Literal.value, absorb_digits small, if_true, pure, Except.pure]

theorem scanScalar_digit
    {d : Char}
    (digit : d.isDigit = true)
    (rest : List Char) :
    scanScalar (d :: rest) =
      (scanNumber false (d :: rest)).map fun (number, rest) => (.number number, rest) := by
  have differs (c : Char) (noDigit : c.isDigit = false) : d ≠ c := ne_of_isDigit digit noDigit
  rw [scanScalar, if_neg (differs 'n' rfl), if_neg (differs 't' rfl), if_neg (differs 'f' rfl),
    if_neg (differs '"' rfl), if_neg (differs '-' rfl), if_pos digit]

theorem scanScalar_minus (rest : List Char) :
    scanScalar ('-' :: rest) =
      (scanNumber true rest).map fun (number, rest) => (.number number, rest) :=
  rfl

/-- An integer within sixty-four bits is read back. -/
theorem scanScalar_renderInteger
    {value : Int}
    (lower : -9223372036854775808 ≤ value)
    (upper : value < 18446744073709551616)
    {rest : List Char}
    (ends : EndsNumber rest) :
    scanScalar (Number.renderInteger value ++ rest) =
      .ok (.number (.integer value), rest) := by
  have small : value.natAbs < 18446744073709551616 := by omega
  unfold Number.renderInteger
  split
  · rename_i negative
    have bounds : 1 ≤ value.natAbs ∧ value.natAbs ≤ 9223372036854775808 := by omega
    have same : -(value.natAbs : Int) = value := by omega
    rw [List.cons_append, scanScalar_minus, scanNumber_digits true small ends,
      Literal.wholeNumber, if_neg (by decide), if_pos bounds, same]
    rfl
  · rename_i nonnegative
    have same : (value.natAbs : Int) = value := by omega
    have scanned := scanNumber_digits false small ends
    cases shown : Number.digits value.natAbs with
    | nil => exact absurd shown Nat.toDigits_ne_nil
    | cons d others =>
        have digit : d.isDigit = true :=
          Number.isDigit_of_mem_digits (n := value.natAbs) (by rw [shown]; exact List.mem_cons_self)
        rw [shown, List.cons_append] at scanned
        rw [List.cons_append, scanScalar_digit digit, scanned, Literal.wholeNumber,
          if_pos (by decide), same]
        rfl

end ReviewQuery.Json
