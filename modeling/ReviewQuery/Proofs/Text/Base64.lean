import ReviewQuery.Proofs.Text.Utf8
import ReviewQuery.Text.Octets

/-!
# Base64 loses nothing

The alphabet is a table of sixty-four characters, and a character has the value of its place in the
table.  A reader takes four characters at a time.  It refuses fill characters anywhere but at the
end and a last group whose unused bits are not zero, so it is as strict as a reader may be, and
still it reads back whatever was written.
-/

namespace ReviewQuery.Text.Base64

/-! ## The alphabet -/

/-- The characters in the order of their values. -/
def alphabet : List Char :=
  "ABCDEFGHIJKLMNOPQRSTUVWXYZabcdefghijklmnopqrstuvwxyz0123456789+/".toList

/-- The value of a character, which is its place in the alphabet. -/
def value? (c : Char) : Option Nat :=
  alphabet.idxOf? c

theorem value?_digit {value : Nat} (small : value < 64) : value? (digit value) = some value := by
  revert value
  decide +kernel

theorem digit_mem_alphabet {value : Nat} (small : value < 64) : digit value ∈ alphabet := by
  rw [← List.isSome_idxOf?, ← value?, value?_digit small]
  rfl

theorem digit_ne_fill {value : Nat} (small : value < 64) : digit value ≠ '=' := by
  intro fill
  have read := value?_digit small
  rw [fill] at read
  cases read

/-! ## Reading -/

/-- The octets that a text stands for, four characters at a time.  The last group may be filled up,
and then the bits that belong to no octet have to be zero. -/
def decode : List Char → Option (List UInt8)
  | [] => some []
  | p :: q :: r :: s :: rest => do
    let a ← value? p
    let b ← value? q
    if s = '=' then
      if rest ≠ [] then none
      else if r = '=' then
        if b % 16 = 0 then some [UInt8.ofNat (a * 4 + b / 16)] else none
      else do
        let c ← value? r
        if c % 4 = 0 then
          some [UInt8.ofNat (a * 4 + b / 16), UInt8.ofNat (b % 16 * 16 + c / 4)]
        else none
    else do
      let c ← value? r
      let d ← value? s
      let octets ← decode rest
      some (UInt8.ofNat (a * 4 + b / 16) :: UInt8.ofNat (b % 16 * 16 + c / 4) ::
        UInt8.ofNat (c % 4 * 64 + d) :: octets)
  | _ => none

section Groups

variable
  {a b c d : Nat}
  (aSmall : a < 64)
  (bSmall : b < 64)
  (cSmall : c < 64)
  (dSmall : d < 64)

include aSmall bSmall

/-- Two characters and two fill characters hold one octet. -/
theorem decode_two_digits (unused : b % 16 = 0) :
    decode [digit a, digit b, '=', '='] = some [UInt8.ofNat (a * 4 + b / 16)] := by
  simp only [decode, value?_digit aSmall, value?_digit bSmall, unused, if_true, ne_eq,
    not_true_eq_false, if_false, Option.bind_eq_bind, Option.bind_some]

include cSmall

/-- Three characters and a fill character hold two octets. -/
theorem decode_three_digits (unused : c % 4 = 0) :
    decode [digit a, digit b, digit c, '='] =
      some [UInt8.ofNat (a * 4 + b / 16), UInt8.ofNat (b % 16 * 16 + c / 4)] := by
  simp only [decode, value?_digit aSmall, value?_digit bSmall, value?_digit cSmall,
    digit_ne_fill cSmall, unused, if_true, ne_eq, not_true_eq_false, if_false, Option.bind_eq_bind,
    Option.bind_some]

include dSmall

/-- Four characters hold three octets, whatever follows them. -/
theorem decode_four_digits (rest : List Char) :
    decode (digit a :: digit b :: digit c :: digit d :: rest) =
      (decode rest).map fun octets =>
        UInt8.ofNat (a * 4 + b / 16) :: UInt8.ofNat (b % 16 * 16 + c / 4) ::
          UInt8.ofNat (c % 4 * 64 + d) :: octets := by
  simp only [decode, value?_digit aSmall, value?_digit bSmall, value?_digit cSmall,
    value?_digit dSmall, digit_ne_fill dSmall, if_false, Option.bind_eq_bind, Option.bind_some]
  cases decode rest <;> rfl

end Groups

/-! ## Reading what was written -/

/-- Reading undoes writing. -/
theorem decode_encode (octets : List UInt8) : decode (encode octets) = some octets := by
  induction octets using encode.induct with
  | case1 => rfl
  | case2 a =>
      have first := a.toNat_lt
      rw [encode, decode_two_digits (by omega) (by omega) (by omega),
        Utf8.ofNat_of_toNat (show a.toNat = _ by omega)]
  | case3 a b =>
      have first := a.toNat_lt
      have second := b.toNat_lt
      rw [encode, decode_three_digits (by omega) (by omega) (by omega) (by omega),
        Utf8.ofNat_of_toNat (show a.toNat = _ by omega),
        Utf8.ofNat_of_toNat (show b.toNat = _ by omega)]
  | case4 a b c rest ih =>
      have first := a.toNat_lt
      have second := b.toNat_lt
      have third := c.toNat_lt
      rw [encode, decode_four_digits (by omega) (by omega) (by omega) (by omega), ih,
        Utf8.ofNat_of_toNat (show a.toNat = _ by omega),
        Utf8.ofNat_of_toNat (show b.toNat = _ by omega),
        Utf8.ofNat_of_toNat (show c.toNat = _ by omega)]
      rfl

/-- Different octets are written differently. -/
theorem encode_injective {left right : List UInt8} (same : encode left = encode right) :
    left = right := by
  have read := decode_encode left
  rw [same, decode_encode] at read
  exact (Option.some.inj read).symm

/-! ## The form of a written text -/

/-- Whether a text consists of characters of the alphabet, filled up to groups of four by at most
two fill characters at its end. -/
def IsFilled (text : List Char) : Prop :=
  text.length % 4 = 0 ∧
    ∃ (digits : List Char) (fills : Nat),
      text = digits ++ List.replicate fills '=' ∧ fills ≤ 2 ∧ ∀ c ∈ digits, c ∈ alphabet

/-- A full group in front of a text changes nothing about its form. -/
theorem IsFilled.cons_digits
    {a b c d : Nat}
    (aSmall : a < 64)
    (bSmall : b < 64)
    (cSmall : c < 64)
    (dSmall : d < 64)
    {rest : List Char}
    (filled : IsFilled rest) :
    IsFilled (digit a :: digit b :: digit c :: digit d :: rest) := by
  rcases filled with ⟨whole, digits, fills, rfl, few, inside⟩
  constructor
  · simpa only [List.length_cons, Nat.add_assoc, Nat.add_mod_right] using whole
  · refine ⟨digit a :: digit b :: digit c :: digit d :: digits, fills, rfl, few, ?_⟩
    simpa [digit_mem_alphabet, aSmall, bSmall, cSmall, dSmall] using inside

theorem isFilled_encode (octets : List UInt8) : IsFilled (encode octets) := by
  induction octets using encode.induct with
  | case1 => exact ⟨rfl, [], 0, rfl, by decide, List.forall_mem_nil _⟩
  | case2 a =>
      have first := a.toNat_lt
      refine ⟨by simp [encode], [digit _, digit _], 2, rfl, by decide, ?_⟩
      simp only [List.forall_mem_cons]
      exact ⟨digit_mem_alphabet (by omega), digit_mem_alphabet (by omega), List.forall_mem_nil _⟩
  | case3 a b =>
      have first := a.toNat_lt
      have second := b.toNat_lt
      refine ⟨by simp [encode], [digit _, digit _, digit _], 1, rfl, by decide, ?_⟩
      simp only [List.forall_mem_cons]
      exact ⟨digit_mem_alphabet (by omega), digit_mem_alphabet (by omega),
        digit_mem_alphabet (by omega), List.forall_mem_nil _⟩
  | case4 a b c rest ih =>
      have first := a.toNat_lt
      have second := b.toNat_lt
      have third := c.toNat_lt
      rw [encode]
      exact ih.cons_digits (by omega) (by omega) (by omega) (by omega)

end ReviewQuery.Text.Base64
