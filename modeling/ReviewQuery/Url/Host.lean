import ReviewQuery.Text.Hexadecimal
import ReviewQuery.Url.Domain
import ReviewQuery.Url.Encoding
import ReviewQuery.Url.Error

/-!
# Hosts

Below the special schemes a host is an IPv6 address in brackets, an IPv4 address or a domain name
in its ASCII form.  Below other schemes a host other than an IPv6 address is a text of its own,
which is only percent-encoded.

An IPv4 address is written with up to four numbers between dots.  Each number is decimal, octal
behind a zero, or hexadecimal behind `0x`; the last one fills all octets that the others leave.  A
host that ends in a number is meant as an address.

An IPv6 address has eight pieces of sixteen bits.  They are written in hexadecimal between colons;
one gap `::` may stand for any number of zero pieces but none, and the last two pieces may be
written as an IPv4 address.
-/

namespace ReviewQuery.Url

/-! ## IPv4 addresses -/

namespace Ipv4

/-- The number that digits stand for in some base; `none` if one of them is no digit of it. -/
def ofDigits? (base : Nat) (digits : List Char) : Option Nat :=
  digits.foldlM
    (fun total c =>
      match Text.Hexadecimal.value? c with
      | some value => if value < base then some (total * base + value) else none
      | none => none)
    0

/-- The number that a part stands for, or `none` if it is no number. -/
def number? : List Char → Option Nat
  | [] => none
  | ['0'] => some 0
  | '0' :: 'x' :: digits => ofDigits? 16 digits
  | '0' :: 'X' :: digits => ofDigits? 16 digits
  | '0' :: digits => ofDigits? 8 digits
  | digits => ofDigits? 10 digits

/-- The parts of a host without the empty part behind a dot at its end. -/
def parts (host : List Char) : List (List Char) :=
  let all := Domain.labels host
  if all.getLast? = some [] then all.dropLast else all

/-- Whether a host is meant as an address: its last part consists of digits or is a number. -/
def endsInNumber (host : List Char) : Bool :=
  match (parts host).getLast? with
  | none => false
  | some [] => false
  | some part => part.all Char.isDigit || (number? part).isSome

/-- The address that numbers stand for, the last of which fills the octets that are left. -/
def ofNumbers? (numbers : List Nat) : Option Nat :=
  match numbers.getLast? with
  | none => none
  | some last =>
    let others := numbers.dropLast
    if Nat.pow 256 (4 - others.length) ≤ last || others.any (255 < ·) then none
    else
      some
        (others.foldl (fun total n => total * 256 + n) 0 * Nat.pow 256 (4 - others.length) + last)

/-- The address that a host stands for. -/
def parse? (host : List Char) : Option Nat :=
  let parts := parts host
  if 4 < parts.length then none
  else
    match parts.mapM number? with
    | some numbers => ofNumbers? numbers
    | none => none

/-- The four octets of an address in decimal, with dots between them. -/
def render (address : Nat) : List Char :=
  let octet (place : Nat) := Nat.toDigits 10 (address / Nat.pow 256 place % 256)
  octet 3 ++ '.' :: octet 2 ++ '.' :: octet 1 ++ '.' :: octet 0

end Ipv4

/-! ## IPv6 addresses -/

namespace Ipv6

/-! ## Reading -/

/-- The pieces read so far and, if there was a gap, how many of them stand before its end. -/
structure Pieces where
  read : List Nat
  gap : Option Nat

/-- Up to four hexadecimal digits at the start of a text. -/
def leadingDigits (text : List Char) : List Char :=
  (text.take 4).takeWhile fun c => (Text.Hexadecimal.value? c).isSome

/-- A decimal number below 256 without a leading zero, and the rest. -/
def octet? (text : List Char) : Option (Nat × List Char) :=
  let digits := text.takeWhile Char.isDigit
  let rest := text.dropWhile Char.isDigit
  let value := digits.foldl (fun total c => total * 10 + (c.toNat - 48)) 0
  match digits with
  | [] => none
  | '0' :: _ :: _ => none
  | _ => if value < 256 then some (value, rest) else none

/-- The two pieces of an IPv4 address that a text consists of. -/
def dotted? (text : List Char) : Option (Nat × Nat) := do
  let (a, rest) ← octet? text
  let '.' :: rest := rest | none
  let (b, rest) ← octet? rest
  let '.' :: rest := rest | none
  let (c, rest) ← octet? rest
  let '.' :: rest := rest | none
  let (d, rest) ← octet? rest
  let [] := rest | none
  some (a * 256 + b, c * 256 + d)

/-- The pieces that the rest of an address adds to those already read. -/
def readPieces? (pieces : Pieces) (text : List Char) : Option Pieces :=
  match text with
  | [] => some pieces
  | c :: rest =>
    if pieces.read.length = 8 then none
    else if c = ':' then
      if pieces.gap.isSome then none
      else readPieces? ⟨pieces.read ++ [0], some (pieces.read.length + 1)⟩ rest
    else
      let digits := leadingDigits (c :: rest)
      let value := (Text.Hexadecimal.number? digits).getD 0
      match _after : (c :: rest).drop digits.length with
      | [] => some { pieces with read := pieces.read ++ [value] }
      | d :: rest' =>
        if d = '.' then
          if digits.isEmpty || 6 < pieces.read.length then none
          else (dotted? (c :: rest)).map fun (high, low) =>
            { pieces with read := pieces.read ++ [high, low] }
        else if d = ':' then
          if rest'.isEmpty then none
          else readPieces? { pieces with read := pieces.read ++ [value] } rest'
        else none
termination_by text.length
decreasing_by
  · simp
  · have := congrArg List.length _after
    simp only [List.length_drop, List.length_cons] at *
    omega

/-- The eight pieces, with the gap filled. -/
def Pieces.expand? (pieces : Pieces) : Option (List Nat) :=
  match pieces.gap with
  | none => if pieces.read.length = 8 then some pieces.read else none
  | some place =>
    some (pieces.read.take place ++ List.replicate (8 - pieces.read.length) 0 ++
      pieces.read.drop place)

/-- The pieces of the address that a text stands for. -/
def parse? (text : List Char) : Option (List Nat) :=
  match text with
  | [] => none
  | [_] => none
  | ':' :: ':' :: rest => (readPieces? ⟨[0], some 1⟩ rest).bind Pieces.expand?
  | ':' :: _ => none
  | text => (readPieces? ⟨[], none⟩ text).bind Pieces.expand?

/-! ## Writing -/

/-- The place and length of the first longest run of zeros from `place` on, given the best run so
far and the run that is under way. -/
def longestRun (best current : Nat × Nat) (place : Nat) : List Nat → Nat × Nat
  | [] => if best.2 < current.2 then current else best
  | piece :: rest =>
    if piece = 0 then
      let current := if current.2 = 0 then (place, 1) else (current.1, current.2 + 1)
      longestRun best current (place + 1) rest
    else
      longestRun (if best.2 < current.2 then current else best) (0, 0) (place + 1) rest

/-- Pieces with colons between them. -/
def join : List Nat → List Char
  | [] => []
  | [piece] => Text.Hexadecimal.render piece
  | piece :: rest => Text.Hexadecimal.render piece ++ ':' :: join rest

/-- An address in its shortest form; the first longest run of at least two zeros becomes the
gap. -/
def render (pieces : List Nat) : List Char :=
  let (place, length) := longestRun (0, 0) (0, 0) 0 pieces
  if length < 2 then join pieces
  else join (pieces.take place) ++ ':' :: ':' :: join (pieces.drop (place + length))

end Ipv6

/-! ## Hosts of any kind -/

/-- A host of a URL. -/
inductive Host where
  /-- A domain name, or a text of its own below a scheme that is not special. -/
  | name (text : List Char)
  | ipv4 (address : Nat)
  | ipv6 (pieces : List Nat)
  deriving DecidableEq, Repr

namespace Host

/-- The host as it stands in a URL. -/
def render : Host → List Char
  | .name text => text
  | .ipv4 address => Ipv4.render address
  | .ipv6 pieces => '[' :: Ipv6.render pieces ++ [']']

/-- The IPv6 address in brackets that a text stands for; the text starts with a bracket. -/
def readBracketed (text : List Char) : Except Error Host :=
  if text.getLast? = some ']' then
    match Ipv6.parse? (text.drop 1).dropLast with
    | some pieces => .ok (.ipv6 pieces)
    | none => .error .invalidIpv6
  else .error .invalidIpv6

/-- The host below a special scheme. -/
def readSpecial (text : List Char) : Except Error Host :=
  if text.head? = some '[' then readBracketed text
  else
    match (Text.Utf8.decode (PercentEncoding.decode text)).bind Domain.toAscii? with
    | none => .error .invalidDomain
    | some [] => .error .emptyHost
    | some domain =>
      if Ipv4.endsInNumber domain then
        match Ipv4.parse? domain with
        | some address => .ok (.ipv4 address)
        | none => .error .invalidIpv4
      else .ok (.name domain)

/-- Whether a character may not stand in a host that is a text of its own. -/
def isForbidden (c : Char) : Bool :=
  c = '\x00' || c = '\t' || c = '\n' || c = '\r' || " #/:<>?@[\\]^|".toList.contains c

/-- The host below a scheme that is not special. -/
def readPlain (text : List Char) : Except Error Host :=
  if text.head? = some '[' then readBracketed text
  else if text.any isForbidden then .error .invalidHostCharacter
  else .ok (.name (PercentEncoding.encode PercentEncoding.isControl text))

end Host

end ReviewQuery.Url
