/-!
# Hexadecimal digits

The value of a digit in either case, the digit of a value in a chosen case, and whole numbers in
the fewest lower-case digits.  Tables of code points are written with these digits: a character
property is a list of ranges, and its table has rows of text, each with ranges and single code
points separated by blanks, as in `"7f-a0 ad 300-36f"`.
-/

namespace ReviewQuery.Text

namespace Hexadecimal

/-- The value of a hexadecimal digit of either case. -/
def value? (c : Char) : Option Nat :=
  if '0' ≤ c ∧ c ≤ '9' then some (c.toNat - 48)
  else if 'a' ≤ c ∧ c ≤ 'f' then some (c.toNat - 87)
  else if 'A' ≤ c ∧ c ≤ 'F' then some (c.toNat - 55)
  else none

/-- The lower-case digit of a value below sixteen. -/
def lower (value : Nat) : Char :=
  if value < 10 then Char.ofNat (48 + value) else Char.ofNat (87 + value)

/-- The upper-case digit of a value below sixteen. -/
def upper (value : Nat) : Char :=
  if value < 10 then Char.ofNat (48 + value) else Char.ofNat (55 + value)

/-- The number that a run of digits stands for; `none` if one of them is no digit. -/
def number? (digits : List Char) : Option Nat :=
  digits.foldlM (fun total c => (value? c).map (total * 16 + ·)) 0

/-- A number in the fewest lower-case digits, `0` for zero. -/
def render (number : Nat) : List Char :=
  if number < 16 then [lower number]
  else render (number / 16) ++ [lower (number % 16)]
termination_by number
decreasing_by omega

end Hexadecimal

/-! ## Sets of code points -/

/-- A set of code points as a list of ranges, both ends included. -/
structure CodePoints where
  ranges : List (Nat × Nat)

namespace CodePoints

/-- The range that one word of a table stands for. -/
def range? (word : String) : Option (Nat × Nat) :=
  match word.splitOn "-" with
  | [one] => (Hexadecimal.number? one.toList).map fun n => (n, n)
  | [low, high] => do
    let low ← Hexadecimal.number? low.toList
    let high ← Hexadecimal.number? high.toList
    pure (low, high)
  | _ => none

/-- The set that the rows of a table stand for. -/
def ofRows (rows : List String) : CodePoints :=
  ⟨rows.flatMap fun row => (row.splitOn " ").filterMap range?⟩

/-- Whether a code point lies in one of the ranges. -/
def contains (set : CodePoints) (code : Nat) : Bool :=
  set.ranges.any fun range => range.1 ≤ code && code ≤ range.2

end CodePoints

end ReviewQuery.Text
