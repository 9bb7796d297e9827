import ReviewQuery.Url.Domain.LabelTable
import ReviewQuery.Url.Domain.Normalization

/-!
# Which labels a domain name may hold

A label does not start with a mark, holds an invisible joiner only where the script needs it, and
does not mix directions of writing in a way that could mislead a reader.
-/

namespace ReviewQuery.Url.Domain

/-! ## Invisible joiners -/

/-- The code point of the invisible sign that keeps letters apart. -/
def nonJoiner : Nat := 0x200C

/-- The code point of the invisible sign that joins letters. -/
def joiner : Nat := 0x200D

/-- The combining class of signs that mute a vowel. -/
def muteClass : Nat := 9

/-- Whether a joiner may stand between two parts of a label; the part before it is reversed. -/
def allowsJoiner (code : Nat) (before after : List Nat) : Bool :=
  let followsMute :=
    (before.head?.map fun last => combiningClass last == muteClass).getD false
  let joinsFromLeft :=
    ((before.dropWhile joinsThrough.contains).head?.map fun c =>
      joinsLeft.contains c || joinsBothSides.contains c).getD false
  let joinsToRight :=
    ((after.dropWhile joinsThrough.contains).head?.map fun c =>
      joinsRight.contains c || joinsBothSides.contains c).getD false
  followsMute || (code = nonJoiner && joinsFromLeft && joinsToRight)

/-- Whether every invisible joiner of a label stands where it may; `before` is what has been seen,
in reverse. -/
def joinersAllowed (before : List Nat) : List Nat → Bool
  | [] => true
  | code :: rest =>
    (if code = joiner || code = nonJoiner then allowsJoiner code before rest else true) &&
      joinersAllowed (code :: before) rest

/-! ## Direction -/

/-- How a character takes part in the direction of a label. -/
inductive Direction where
  | left
  | right
  | arabicDigit
  | europeanDigit
  | mark
  | neutral
  | control
  deriving DecidableEq, Repr

/-- The direction of a character. -/
def direction (code : Nat) : Direction :=
  if rightToLeft.contains code then .right
  else if arabicDigits.contains code then .arabicDigit
  else if europeanDigits.contains code then .europeanDigit
  else if directionlessMarks.contains code then .mark
  else if neutral.contains code then .neutral
  else if directionControls.contains code then .control
  else .left

/-- Whether a label calls for the rule on directions. -/
def hasRightToLeft (label : List Nat) : Bool :=
  label.any fun code => direction code = .right || direction code = .arabicDigit

/-- The rule on directions, which holds for every label of a name that has right-to-left text. -/
def keepsDirection (label : List Nat) : Bool :=
  let directions := label.map direction
  let last := (directions.reverse.dropWhile (· = .mark)).head?
  match directions.head? with
  | none => true
  | some .right =>
    directions.all (fun d => d ≠ .left && d ≠ .control) &&
      (last = some .right || last = some .europeanDigit || last = some .arabicDigit) &&
      !(directions.contains .europeanDigit && directions.contains .arabicDigit)
  | some .left =>
    directions.all (fun d => d ≠ .right && d ≠ .arabicDigit && d ≠ .control) &&
      (last = some .left || last = some .europeanDigit)
  | some _ => false

/-! ## All rules on one label -/

/-- Whether a label starts with a mark. -/
def startsWithMark (label : List Nat) : Bool :=
  (label.head?.map marks.contains).getD false

/-- The rules that a label keeps on its own. -/
def isWellFormed (label : List Nat) : Bool :=
  !startsWithMark label && joinersAllowed [] label

end ReviewQuery.Url.Domain
