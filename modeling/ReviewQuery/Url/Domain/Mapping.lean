import ReviewQuery.Url.Domain.MappingTable

/-!
# How the characters of a domain name are written

Capital letters, wide and styled forms and a few signs are written as the plain characters that
they stand for, some characters are left out, and the others are either kept or not allowed in a
domain name at all.
-/

namespace ReviewQuery.Url.Domain

/-- What becomes of a character in a domain name. -/
inductive Treatment where
  | kept
  | dropped
  | replaced (written : List Nat)
  | refused
  deriving DecidableEq, Repr

/-- One entry of a table of replacements: every `step`-th code point from `first` to `last` is
written as the code points of `target`, the last of them raised by the distance from `first`. -/
structure Replacement where
  first : Nat
  last : Nat
  step : Nat
  target : List Nat

namespace Replacement

/-- The code points of a list that is separated by commas. -/
def codes? (text : String) : Option (List Nat) :=
  (text.splitOn ",").mapM fun word => Text.Hexadecimal.number? word.toList

/-- The entry that one word of a table stands for. -/
def ofWord? (word : String) : Option Replacement :=
  match word.splitOn ":" with
  | [source, target] => do
    let target ← codes? target
    match source.splitOn "-", source.splitOn "=" with
    | [low, high], _ => do
      let low ← Text.Hexadecimal.number? low.toList
      let high ← Text.Hexadecimal.number? high.toList
      pure ⟨low, high, 1, target⟩
    | _, [low, high] => do
      let low ← Text.Hexadecimal.number? low.toList
      let high ← Text.Hexadecimal.number? high.toList
      pure ⟨low, high, 2, target⟩
    | _, _ => do
      let code ← Text.Hexadecimal.number? source.toList
      pure ⟨code, code, 1, target⟩
  | _ => none

/-- The entries in the rows of a table. -/
def ofRows (rows : List String) : List Replacement :=
  rows.flatMap fun row => (row.splitOn " ").filterMap ofWord?

/-- Whether an entry covers a code point. -/
def covers (entry : Replacement) (code : Nat) : Bool :=
  entry.first ≤ code && code ≤ entry.last && (code - entry.first) % entry.step = 0

/-- The code points that an entry gives for one that it covers. -/
def apply (entry : Replacement) (code : Nat) : List Nat :=
  match entry.target with
  | [one] => [one + (code - entry.first)]
  | target => target

end Replacement

/-- The characters that stand in a domain name as they are. -/
def keptCharacters : Text.CodePoints := .ofRows keptTable

/-- The characters that are left out. -/
def droppedCharacters : Text.CodePoints := .ofRows droppedTable

/-- The characters that are written differently. -/
def replacements : List Replacement := Replacement.ofRows replacedTable

/-- What becomes of a character. -/
def treatment (code : Nat) : Treatment :=
  if keptCharacters.contains code then .kept
  else if droppedCharacters.contains code then .dropped
  else
    match replacements.find? (·.covers code) with
    | some entry => .replaced (entry.apply code)
    | none => .refused

/-- A text as it is written in a domain name; `none` if it holds a character that is not
allowed. -/
def map? : List Nat → Option (List Nat)
  | [] => some []
  | code :: rest =>
    match treatment code with
    | .kept => (map? rest).map (code :: ·)
    | .dropped => map? rest
    | .replaced codes => (map? rest).map (codes ++ ·)
    | .refused => none

end ReviewQuery.Url.Domain
