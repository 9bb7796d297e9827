/-!
# Texts and octets

Text is a list of characters and travels as a list of octets.  `Utf8.encode` writes every character
in its shortest form; `Utf8.decode` reads a whole octet list or answers `none`.  A form is refused
when it is longer than needed, stands for a surrogate or lies beyond the last code point, so
`Utf8.decode` is the inverse of `Utf8.encode` and of nothing else.  Places in a text are counted in
octets, and `Base64.encode` writes any octets as text.
-/

namespace ReviewQuery.Text

namespace Utf8

/-! ## Writing -/

/-- The octets of one character, between one and four of them. -/
def encodeChar (c : Char) : List UInt8 :=
  let code := c.toNat
  if code < 0x80 then
    [UInt8.ofNat code]
  else if code < 0x800 then
    [UInt8.ofNat (0xC0 + code / 64), UInt8.ofNat (0x80 + code % 64)]
  else if code < 0x10000 then
    [UInt8.ofNat (0xE0 + code / 4096), UInt8.ofNat (0x80 + code / 64 % 64),
      UInt8.ofNat (0x80 + code % 64)]
  else
    [UInt8.ofNat (0xF0 + code / 262144), UInt8.ofNat (0x80 + code / 4096 % 64),
      UInt8.ofNat (0x80 + code / 64 % 64), UInt8.ofNat (0x80 + code % 64)]

/-- The octets of a text. -/
def encode (text : List Char) : List UInt8 :=
  text.flatMap encodeChar

/-- The octets of a string. -/
def ofString (text : String) : List UInt8 :=
  encode text.toList

/-- The number of octets that a text takes. -/
def size (text : List Char) : Nat :=
  (encode text).length

@[simp]
theorem encode_nil : encode [] = [] := rfl

@[simp]
theorem encode_cons (c : Char) (text : List Char) :
    encode (c :: text) = encodeChar c ++ encode text := rfl

@[simp]
theorem encode_append (left right : List Char) :
    encode (left ++ right) = encode left ++ encode right := by
  simp [encode]

/-! ## Reading -/

/-- The six bits that a continuation octet carries. -/
def continuation? (octet : UInt8) : Option Nat :=
  if 0x80 ≤ octet.toNat ∧ octet.toNat < 0xC0 then some (octet.toNat - 0x80) else none

/-- The character of a code point, provided that its shortest form starts at `least` or above. -/
def character? (least code : Nat) : Option Char :=
  if least ≤ code ∧ code.isValidChar then some (Char.ofNat code) else none

/-- The text of an octet list, or `none` if the octets are no UTF-8. -/
def decode : List UInt8 → Option (List Char)
  | [] => some []
  | a :: rest =>
    if a.toNat < 0x80 then do
      let text ← decode rest
      pure (Char.ofNat a.toNat :: text)
    else if a.toNat < 0xC0 then
      none
    else if a.toNat < 0xE0 then
      match rest with
      | b :: rest => do
        let low ← continuation? b
        let c ← character? 0x80 ((a.toNat - 0xC0) * 64 + low)
        let text ← decode rest
        pure (c :: text)
      | _ => none
    else if a.toNat < 0xF0 then
      match rest with
      | b :: b' :: rest => do
        let high ← continuation? b
        let low ← continuation? b'
        let c ← character? 0x800 ((a.toNat - 0xE0) * 4096 + high * 64 + low)
        let text ← decode rest
        pure (c :: text)
      | _ => none
    else if a.toNat < 0xF8 then
      match rest with
      | b :: b' :: b'' :: rest => do
        let high ← continuation? b
        let middle ← continuation? b'
        let low ← continuation? b''
        let c ← character? 0x10000
          ((a.toNat - 0xF0) * 262144 + high * 4096 + middle * 64 + low)
        let text ← decode rest
        pure (c :: text)
      | _ => none
    else
      none

end Utf8

/-! ## Positions in a text -/

/-- A place as an editor shows it: the line, counted from one, and the number of octets between the
start of that line and the place. -/
structure Position where
  line : Nat
  column : Nat
  deriving DecidableEq, Repr

/-- The octet that ends a line. -/
def lineFeed : UInt8 := 10

/-- The position once some octets of a text have been read. -/
def Position.after (text : List Char) (read : Nat) : Position :=
  let seen := (Utf8.encode text).take read
  { line := 1 + seen.count lineFeed
    column := (seen.reverse.takeWhile (· ≠ lineFeed)).length }

/-! ## Octets as text -/

namespace Base64

/-- The character for a value below sixty-four. -/
def digit (value : Nat) : Char :=
  if value < 26 then Char.ofNat (65 + value)
  else if value < 52 then Char.ofNat (71 + value)
  else if value < 62 then Char.ofNat (value - 4)
  else if value = 62 then '+'
  else '/'

/-- The characters for some octets.  Three octets make four characters; one or two octets at the end
make two or three characters, and `=` fills the last group. -/
def encode : List UInt8 → List Char
  | [] => []
  | [a] =>
    [digit (a.toNat / 4), digit (a.toNat % 4 * 16), '=', '=']
  | [a, b] =>
    [digit (a.toNat / 4), digit (a.toNat % 4 * 16 + b.toNat / 16), digit (b.toNat % 16 * 4), '=']
  | a :: b :: c :: rest =>
    digit (a.toNat / 4) :: digit (a.toNat % 4 * 16 + b.toNat / 16) ::
      digit (b.toNat % 16 * 4 + c.toNat / 64) :: digit (c.toNat % 64) :: encode rest

end Base64

end ReviewQuery.Text
