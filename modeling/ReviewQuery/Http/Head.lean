import ReviewQuery.Http.Fault
import ReviewQuery.Text.Octets

/-!
# The head of a response

A head is a status line, header fields, and an empty line.  Lines end with a line feed; a carriage
return in front of it does not count.  Fields whose name is no token are passed over.
-/

namespace ReviewQuery

/-! ## Blanks around a text -/

namespace Text

/-- Whether a character is white space. -/
def isBlank (c : Char) : Bool :=
  let code := c.toNat
  (9 ≤ code && code ≤ 13) || code = 0x20 || code = 0x85 || code = 0xA0 || code = 0x1680 ||
    (0x2000 ≤ code && code ≤ 0x200A) || code = 0x2028 || code = 0x2029 || code = 0x202F ||
    code = 0x205F || code = 0x3000

/-- A text without the blanks around it. -/
def trim (text : List Char) : List Char :=
  ((text.dropWhile isBlank).reverse.dropWhile isBlank).reverse

end Text

namespace Http

/-- The octets of a message. -/
abbrev Octets : Type := List UInt8

/-- A line feed. -/
def lf : UInt8 := 10

/-- A carriage return. -/
def cr : UInt8 := 13

/-! ## Lines -/

/-- The text of octets that came as one line; octets that are no text are left out as a whole. -/
def lineText (octets : Octets) : String :=
  String.ofList ((Text.Utf8.decode octets).getD [])

/-- A line without the carriage return at its end. -/
def stripReturn (line : Octets) : Octets :=
  if line.getLast? = some cr then line.dropLast else line

/-- The line at the start of a head, without its end, and the rest. -/
def readLine (octets : Octets) : Except Fault (Octets × Octets) :=
  let line := octets.takeWhile (· ≠ lf)
  match octets.dropWhile (· ≠ lf) with
  | [] =>
    if line.isEmpty then .error .headEnds
    else if lineLimit < line.length then .error .longLine
    else .error (.lineEnds (lineText line))
  | _ :: rest =>
    if lineLimit ≤ line.length then .error .longLine
    else .ok (stripReturn line, rest)

theorem length_lt_of_readLine
    {octets line rest : Octets}
    (h : readLine octets = .ok (line, rest)) :
    rest.length < octets.length := by
  have bound := (List.dropWhile_suffix (l := octets) (· ≠ lf)).length_le
  unfold readLine at h
  dsimp only at h
  split at h
  · split at h
    · cases h
    · split at h <;> cases h
  · rename_i dropped
    rw [dropped] at bound
    simp only [List.length_cons] at bound
    split at h
    · cases h
    · cases h
      omega

/-! ## The status line -/

/-- The first line of a response. -/
structure StatusLine where
  version : List Char
  code : Nat
  reason : List Char
  deriving DecidableEq, Repr

/-- The text of a status line, with the code in its shortest form. -/
def StatusLine.render (line : StatusLine) : String :=
  String.ofList (line.version ++ ' ' :: Nat.toDigits 10 line.code ++ ' ' :: line.reason)

/-- A whole number in decimal, which may start with a plus sign. -/
def decimal? (text : List Char) : Option Nat :=
  let digits :=
    match text with
    | '+' :: digits => digits
    | digits => digits
  if !digits.isEmpty && digits.all Char.isDigit then
    some (digits.foldl (fun total c => total * 10 + (c.toNat - 48)) 0)
  else none

/-- Whether a version has the form of the name, a digit, a point and a digit. -/
def isVersion (version : List Char) : Bool :=
  match version.drop 5 with
  | [major, point, minor] => major.isDigit && point = '.' && minor.isDigit
  | _ => false

/-- The status line that a line of text stands for. -/
def readStatusText (text : List Char) : Except Fault StatusLine :=
  let version := text.takeWhile (· ≠ ' ')
  match text.dropWhile (· ≠ ' ') with
  | [] => .error .statusParts
  | _ :: rest =>
    let code := rest.takeWhile (· ≠ ' ')
    let reason := rest.dropWhile (· ≠ ' ')
    if !"HTTP/".toList.isPrefixOf version then .error .statusPrefix
    else if version.length ≠ 8 then .error .statusVersionLength
    else if !isVersion version then .error .statusVersionFormat
    else if code.length ≠ 3 then .error .statusCodeLength
    else
      match decimal? code with
      | some number => .ok ⟨version, number, Text.trim reason⟩
      | none => .error (.statusCodeFormat (String.ofList code))

/-- The status line that a line stands for. -/
def readStatus (line : Octets) : Except Fault StatusLine :=
  if line.all (· < 128) then readStatusText (line.map fun octet => Char.ofNat octet.toNat)
  else .error .statusNotAscii

/-! ## Header fields -/

/-- A header field. -/
structure Field where
  name : List Char
  value : Octets
  deriving DecidableEq, Repr

/-- Whether a character may stand in the name of a field. -/
def isTokenChar (c : Char) : Bool :=
  c.isAlphanum || "!#$%&'*+-.^_`|~".toList.contains c

/-- The field that a line stands for, unless the name in front of its colon is no token. -/
def field? (line : Octets) : Option Field :=
  let name := (line.takeWhile (· ≠ 58)).map fun octet => Char.ofNat octet.toNat
  match line.dropWhile (· ≠ 58) with
  | [] => none
  | _ :: value => if name.all isTokenChar then some ⟨name, value⟩ else none

/-- The fields up to the empty line, in order, behind those in `done`, which is in reverse. -/
def readFields (done : List Field) (octets : Octets) : Except Fault (List Field × Octets) :=
  match _line : readLine octets with
  | .error fault => .error fault
  | .ok (line, rest) =>
    if line.isEmpty then .ok (done.reverse, rest)
    else
      let done :=
        match field? line with
        | some field => field :: done
        | none => done
      if fieldLimit < done.length then .error .manyFields
      else readFields done rest
termination_by octets.length
decreasing_by exact length_lt_of_readLine _line

/-! ## Heads -/

/-- The head of a response. -/
structure Head where
  status : StatusLine
  fields : List Field
  deriving DecidableEq, Repr

namespace Head

/-- The head of a response and the octets behind it. -/
def read (octets : Octets) : Except Fault (Head × Octets) := do
  let (line, rest) ← readLine octets
  let status ← readStatus line
  let (fields, rest) ← readFields [] rest
  pure (⟨status, fields⟩, rest)

/-- Whether a character may stand in the value of a field. -/
def isValueChar (c : Char) : Bool :=
  c = '\t' || (0x20 ≤ c.toNat && c.toNat < 0x7F)

/-- The value of the first field of some name in lower case, provided that it holds only graphic
ASCII characters and blanks. -/
def value? (head : Head) (name : String) : Option (List Char) := do
  let field ← head.fields.find? fun field => field.name.map Char.toLower = name.toList
  let text ← Text.Utf8.decode field.value
  let value := Text.trim text
  if value.all isValueChar then some value else none

end Head

end Http

end ReviewQuery
