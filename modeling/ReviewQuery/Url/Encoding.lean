import ReviewQuery.Text.Hexadecimal
import ReviewQuery.Text.Octets

/-!
# Encodings in a URL

In each part of a URL some ASCII characters cannot stand for themselves.  They are written as `%`
with the two upper-case digits of their octet, and so is every octet of a character beyond ASCII.
The text of a form field has an encoding of its own, in which letters, digits and `*`, `-`, `.`,
`_` stand for themselves, a blank becomes `+`, and every other octet becomes `%` with two digits.
-/

namespace ReviewQuery.Url

namespace PercentEncoding

/-! ## Characters that are encoded -/

/-- Controls, which are encoded in every part. -/
def isControl (c : Char) : Bool :=
  c.toNat < 0x20 || c.toNat = 0x7F

/-- Characters that are encoded in a fragment. -/
def inFragment (c : Char) : Bool :=
  isControl c || c = ' ' || c = '"' || c = '<' || c = '>' || c = '`'

/-- Characters that are encoded in a path. -/
def inPath (c : Char) : Bool :=
  inFragment c || c = '#' || c = '?' || c = '\x7b' || c = '\x7d'

/-- Characters that are encoded in a user name or password. -/
def inUserInfo (c : Char) : Bool :=
  inPath c || c = '/' || c = ':' || c = ';' || c = '=' || c = '@' || c = '[' || c = '\\' ||
    c = ']' || c = '^' || c = '|'

/-- Characters that are encoded in a query. -/
def inQuery (c : Char) : Bool :=
  isControl c || c = ' ' || c = '"' || c = '#' || c = '<' || c = '>'

/-- Characters that are encoded in a query below a special scheme. -/
def inSpecialQuery (c : Char) : Bool :=
  inQuery c || c = '\''

/-! ## Encoding and decoding -/

/-- One octet as `%` and two digits. -/
def encodeOctet (octet : UInt8) : List Char :=
  ['%', Text.Hexadecimal.upper (octet.toNat / 16), Text.Hexadecimal.upper (octet.toNat % 16)]

/-- One character, encoded if the part asks for it or if it lies beyond ASCII. -/
def encodeChar (isEncoded : Char → Bool) (c : Char) : List Char :=
  if isEncoded c || 128 ≤ c.toNat then (Text.Utf8.encodeChar c).flatMap encodeOctet else [c]

/-- A text in a part of a URL. -/
def encode (isEncoded : Char → Bool) (text : List Char) : List Char :=
  text.flatMap (encodeChar isEncoded)

/-- The octets of a text in which `%` with two digits of either case stands for an octet. -/
def decode : List Char → List UInt8
  | '%' :: high :: low :: rest =>
    match Text.Hexadecimal.value? high, Text.Hexadecimal.value? low with
    | some h, some l => UInt8.ofNat (16 * h + l) :: decode rest
    | _, _ => 0x25 :: decode (high :: low :: rest)
  | c :: rest => Text.Utf8.encodeChar c ++ decode rest
  | [] => []

end PercentEncoding

/-! ## Form fields -/

namespace FormEncoding

/-- Whether an octet stands for itself. -/
def isKept (octet : UInt8) : Bool :=
  let c := Char.ofNat octet.toNat
  c.isAlphanum || c = '*' || c = '-' || c = '.' || c = '_'

/-- How one octet is written. -/
def encodeOctet (octet : UInt8) : List Char :=
  if isKept octet then [Char.ofNat octet.toNat]
  else if octet = 0x20 then ['+']
  else
    ['%', Text.Hexadecimal.upper (octet.toNat / 16), Text.Hexadecimal.upper (octet.toNat % 16)]

/-- How a text is written. -/
def encode (text : String) : List Char :=
  (Text.Utf8.ofString text).flatMap encodeOctet

end FormEncoding

end ReviewQuery.Url
