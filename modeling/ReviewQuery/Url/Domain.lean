import ReviewQuery.Text.Octets
import ReviewQuery.Url.Domain.Label
import ReviewQuery.Url.Domain.Punycode

/-!
# Domain names in ASCII

A domain name is a list of labels between dots.  `Domain.toAscii?` gives the form in which a name
is looked up: lower-case letters, plain forms of styled characters, and labels with other than
ASCII characters in disguise behind the mark `xn--`.  A name that holds only ASCII characters and
no such mark is only put into lower case.
-/

namespace ReviewQuery.Url.Domain

/-! ## ASCII names -/

/-- Whether a character may not stand in a domain name of a URL. -/
def isForbidden (c : Char) : Bool :=
  c.toNat ≤ 0x20 || c.toNat = 0x7F || "%#/:<>?@[\\]^|".toList.contains c

/-- Whether a label starts with the mark of a disguised label. -/
def isDisguised (label : List Char) : Bool :=
  "xn--".toList.isPrefixOf label

/-- The parts of a text between dots. -/
def labels : List Char → List (List Char)
  | [] => [[]]
  | c :: rest =>
    if c = '.' then [] :: labels rest
    else
      match labels rest with
      | [] => [[c]]
      | label :: others => (c :: label) :: others

/-- Parts with dots between them. -/
def join : List (List Char) → List Char
  | [] => []
  | [label] => label
  | label :: others => label ++ '.' :: join others

/-! ## Labels -/

/-- The greatest number of characters behind the mark of a disguised label. -/
def disguiseLimit : Nat := 2000

/-- The greatest number of characters of a label that is put into disguise. -/
def labelLimit : Nat := 1000

/-- Whether the characters of a label are written as they must be. -/
def isMapped (label : List Nat) : Bool :=
  map? label = some label && normalize label = label

/-- The characters of a label and its form in ASCII, or `none` if it breaks a rule. -/
def readLabel? (label : List Char) : Option (List Nat × List Char) :=
  if isDisguised label then
    let hidden := label.drop 4
    if hidden.isEmpty || disguiseLimit < hidden.length then none
    else
      match Punycode.decode? hidden with
      | none => none
      | some codes =>
        if codes.all (· < 128) || !isMapped codes || !isWellFormed codes then none
        else some (codes, label)
  else
    let codes := label.map Char.toNat
    if !isWellFormed codes then none
    else if codes.all (· < 128) then some (codes, label)
    else if labelLimit < codes.length then none
    else some (codes, "xn--".toList ++ Punycode.encode codes)

/-- Whether the labels of a name go together. -/
def directionsAgree (labels : List (List Nat)) : Bool :=
  !labels.any hasRightToLeft || labels.all keepsDirection

/-- The labels of a name in ASCII. -/
def readLabels? (name : List Char) : Option (List Char) := do
  let read ← (labels name).mapM readLabel?
  if directionsAgree (read.map Prod.fst) then
    some (join (read.map Prod.snd))
  else none

/-! ## Names -/

/-- Whether a text holds only ASCII characters. -/
def isAscii (text : List Char) : Bool :=
  text.all fun c => c.toNat < 128

/-- The characters of a name as they are written in a domain name. -/
def mapName? (name : List Char) : Option (List Char) :=
  if isAscii name then some (name.map Char.toLower)
  else (map? (name.map Char.toNat)).map fun codes => (normalize codes).map Char.ofNat

/-- Whether a character is a control or a space, which stands in no domain name. -/
def isBlank (c : Char) : Bool :=
  c.toNat ≤ 0x20

/-- The ASCII form of a domain name, or `none` if it is no domain name.  Controls and spaces are
refused at once, since no character in their company takes them away. -/
def toAscii? (name : List Char) : Option (List Char) := do
  let mapped ← if name.any isBlank then none else mapName? name
  let result ←
    if isAscii mapped && !(labels mapped).any isDisguised then some mapped
    else readLabels? mapped
  if mapped.any isForbidden || result.any isForbidden then none else some result

end ReviewQuery.Url.Domain
