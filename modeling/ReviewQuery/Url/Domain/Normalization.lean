import ReviewQuery.Url.Domain.Mapping
import ReviewQuery.Url.Domain.NormalizationTable

/-!
# Canonical composition

Two texts that differ only in how marks are attached to letters have one composed form.  It is
found in three steps: take every character apart, put the marks on each letter into the order of
their combining classes, and compose again what can be composed.  Hangul syllables are taken apart
and composed by arithmetic.
-/

namespace ReviewQuery.Url.Domain

/-! ## Tables -/

/-- Full canonical decompositions. -/
def decompositions : List Replacement := Replacement.ofRows decompositionTable

/-- Pairs of characters with what they compose to. -/
def compositions : List (List Nat × Nat) :=
  compositionTable.flatMap fun row =>
    (row.splitOn " ").filterMap fun word =>
      match word.splitOn ":" with
      | [pair, result] => do
        let pair ← Replacement.codes? pair
        let result ← Text.Hexadecimal.number? result.toList
        pure (pair, result)
      | _ => none

/-- Combining classes; the target of an entry is the class. -/
def combiningClasses : List Replacement := Replacement.ofRows combiningTable

/-- The combining class of a character, zero for everything that starts a new letter. -/
def combiningClass (code : Nat) : Nat :=
  match combiningClasses.find? (·.covers code) with
  | some entry => entry.target.headD 0
  | none => 0

/-! ## Hangul -/

/-- The parts of a Hangul syllable: a leading consonant, a vowel and perhaps a final one. -/
def hangulParts? (code : Nat) : Option (List Nat) :=
  if 0xAC00 ≤ code ∧ code < 0xAC00 + 11172 then
    let index := code - 0xAC00
    let leading := 0x1100 + index / 588
    let vowel := 0x1161 + index % 588 / 28
    if index % 28 = 0 then some [leading, vowel]
    else some [leading, vowel, 0x11A7 + index % 28]
  else none

/-- The syllable that two parts make, the first of which may be a syllable without a final
consonant. -/
def hangulSyllable? (left right : Nat) : Option Nat :=
  if 0x1100 ≤ left ∧ left < 0x1113 ∧ 0x1161 ≤ right ∧ right < 0x1176 then
    some (0xAC00 + ((left - 0x1100) * 21 + (right - 0x1161)) * 28)
  else if 0xAC00 ≤ left ∧ left < 0xAC00 + 11172 ∧ (left - 0xAC00) % 28 = 0 ∧
      0x11A7 < right ∧ right < 0x11C3 then
    some (left + (right - 0x11A7))
  else none

/-! ## The three steps -/

/-- The parts of one character. -/
def decompose (code : Nat) : List Nat :=
  match hangulParts? code with
  | some parts => parts
  | none =>
    match decompositions.find? (·.covers code) with
    | some entry => entry.target
    | none => [code]

/-- Put one more character behind a text that is held in reverse.  A mark moves in front of the
marks of higher classes. -/
def attach (code : Nat) : List Nat → List Nat
  | [] => [code]
  | last :: before =>
    if combiningClass code ≠ 0 ∧ combiningClass code < combiningClass last then
      last :: attach code before
    else
      code :: last :: before

/-- A text with the marks on each letter in the order of their classes. -/
def reorder (text : List Nat) : List Nat :=
  (text.foldl (fun done code => attach code done) []).reverse

/-- The character that two characters compose to. -/
def composed? (left right : Nat) : Option Nat :=
  match hangulSyllable? left right with
  | some syllable => some syllable
  | none => (compositions.find? (·.1 = [left, right])).map (·.2)

/-- Compose a letter with what follows.  `pending`, in reverse, are the marks that did not compose
with it; they block every later character whose class is not higher than theirs. -/
def composeOnto (letter : Nat) (pending : List Nat) : List Nat → List Nat
  | [] => letter :: pending.reverse
  | code :: rest =>
    let isBlocked :=
      match pending with
      | [] => false
      | last :: _ => combiningClass code ≤ combiningClass last
    match if isBlocked then none else composed? letter code with
    | some whole => composeOnto whole pending rest
    | none =>
      if combiningClass code = 0 then letter :: pending.reverse ++ composeOnto code [] rest
      else composeOnto letter (code :: pending) rest

/-- Compose every letter with its marks; marks in front of the first letter stay as they are. -/
def compose : List Nat → List Nat
  | [] => []
  | code :: rest =>
    if combiningClass code = 0 then composeOnto code [] rest
    else code :: compose rest

/-- The composed form of a text. -/
def normalize (text : List Nat) : List Nat :=
  compose (reorder (text.flatMap decompose))

end ReviewQuery.Url.Domain
