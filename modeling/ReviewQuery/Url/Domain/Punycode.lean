/-!
# Labels in ASCII disguise

A label with other than ASCII characters is written with letters, digits and hyphens: first its
ASCII characters and a hyphen, then one number for each of the others in rising order.  A number
tells how many steps of a walk over all code points and all places lie between one insertion and
the next.  Its digits have base thirty-six and thresholds that adapt to the numbers seen so far.
-/

namespace ReviewQuery.Url.Domain.Punycode

/-! ## Digits and thresholds -/

/-- The letter or digit for a value below thirty-six. -/
def digit (value : Nat) : Char :=
  if value < 26 then Char.ofNat (97 + value) else Char.ofNat (22 + value)

/-- The value of a lower-case letter or a digit. -/
def digitValue? (c : Char) : Option Nat :=
  if 'a' ≤ c ∧ c ≤ 'z' then some (c.toNat - 97)
  else if '0' ≤ c ∧ c ≤ '9' then some (c.toNat - 22)
  else none

/-- The least value that ends a number at its `place`-th digit, places counted in steps of
thirty-six. -/
def threshold (bias place : Nat) : Nat :=
  if place ≤ bias then 1 else min 26 (place - bias)

theorem threshold_pos (bias place : Nat) : 1 ≤ threshold bias place := by
  unfold threshold
  split <;> omega

/-- The bias that fits numbers of the size of `delta`. -/
def settle (delta places : Nat) : Nat :=
  if 455 < delta then settle (delta / 35) (places + 36)
  else places + 36 * delta / (delta + 38)
termination_by delta
decreasing_by omega

/-- The bias after a number, when `count` characters are in place. -/
def adapt (delta count : Nat) (isFirst : Bool) : Nat :=
  let damped := if isFirst then delta / 700 else delta / 2
  settle (damped + damped / count) 0

/-! ## Writing -/

/-- The digits of a number. -/
def digits (bias place number : Nat) : List Char :=
  let least := threshold bias place
  if number < least then [digit number]
  else
    digit (least + (number - least) % (36 - least)) ::
      digits bias (place + 36) ((number - least) / (36 - least))
termination_by number
decreasing_by
  have := threshold_pos bias place
  have := Nat.div_le_self (number - threshold bias place) (36 - threshold bias place)
  omega

/-- The state of a walk that writes numbers. -/
structure Walk where
  written : List Char
  delta : Nat
  bias : Nat
  placed : Nat

/-- Pass one character of the label while those equal to `code` are being placed. -/
def Walk.pass (basic code : Nat) (walk : Walk) (c : Nat) : Walk :=
  if c < code then { walk with delta := walk.delta + 1 }
  else if c = code then
    { written := walk.written ++ digits walk.bias 36 walk.delta
      delta := 0
      bias := adapt walk.delta (walk.placed + 1) (walk.placed = basic)
      placed := walk.placed + 1 }
  else walk

/-- Place the characters equal to each of the given codes in turn, the least first. -/
def placeAll (label : List Nat) (basic : Nat) (last : Nat) (walk : Walk) : List Nat → Walk
  | [] => walk
  | code :: codes =>
    let start := { walk with delta := walk.delta + (code - last) * (walk.placed + 1) }
    let passed := label.foldl (Walk.pass basic code) start
    placeAll label basic (code + 1) { passed with delta := passed.delta + 1 } codes

/-- The label in disguise, without the mark that announces it. -/
def encode (label : List Nat) : List Char :=
  let basic := label.filter (· < 128)
  let codes := ((label.filter (128 ≤ ·)).mergeSort (· ≤ ·)).eraseDups
  let head := basic.map Char.ofNat ++ (if basic.isEmpty then [] else ['-'])
  let start : Walk := ⟨[], 0, 72, basic.length⟩
  head ++ (placeAll label basic.length 128 start codes).written

/-! ## Reading -/

/-- One number: its value added to `total`, and the rest.  `none` if the digits end before the
number does. -/
def number? (bias place weight total : Nat) : List Char → Option (Nat × List Char)
  | [] => none
  | c :: rest =>
    match digitValue? c with
    | none => none
    | some value =>
      let least := threshold bias place
      if value < least then some (total + value * weight, rest)
      else number? bias (place + 36) (weight * (36 - least)) (total + value * weight) rest

theorem length_lt_of_number?
    {bias place weight total sum : Nat}
    {text rest : List Char}
    (h : number? bias place weight total text = some (sum, rest)) :
    rest.length < text.length := by
  fun_induction number? bias place weight total text with
  | case1 => cases h
  | case2 => cases h
  | case3 =>
      cases h
      simp
  | case4 _ _ _ _ _ _ _ _ _ ih =>
      have := ih h
      simp only [List.length_cons]
      omega

/-- Insert one character after another as the numbers tell.  `place` counts the steps within one
code point, and `code` is the code point that the walk has reached. -/
def insertAll
    (label : List Nat)
    (code place bias : Nat)
    (isFirst : Bool)
    (text : List Char) : Option (List Nat) :=
  match text with
  | [] => some label
  | c :: rest =>
    match _number : number? bias 36 1 place (c :: rest) with
    | none => none
    | some (reached, rest') =>
      let count := label.length + 1
      let code' := code + reached / count
      let place' := reached % count
      if code'.isValidChar then
        insertAll (label.take place' ++ code' :: label.drop place') code' (place' + 1)
          (adapt (reached - place) count isFirst) false rest'
      else none
termination_by text.length
decreasing_by exact length_lt_of_number? _number

/-- The label behind a disguise, without the mark that announces it. -/
def decode? (text : List Char) : Option (List Nat) :=
  let tail := (text.reverse.takeWhile (· ≠ '-')).reverse
  let head := text.take (text.length - tail.length)
  if head.isEmpty then insertAll [] 128 0 72 true text
  else if head.length = 1 then none
  else if head.all fun c => c.toNat < 128 then
    insertAll (head.dropLast.map Char.toNat) 128 0 72 true tail
  else none

end ReviewQuery.Url.Domain.Punycode
