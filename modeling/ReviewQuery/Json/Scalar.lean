import ReviewQuery.Json.Literal
import ReviewQuery.Json.Value
import ReviewQuery.Result

/-!
# Scalars of a JSON text

The parts of a JSON text that hold no other values: blanks, words, strings and numbers.  Each
scanner takes the text that is left and gives what it read with the rest; the lemmas say that the
rest is shorter, which is why reading a whole text ends.
-/

namespace ReviewQuery.Json

/-! ## Blanks and words -/

/-- The four characters that may stand between the parts of a JSON text. -/
def isBlank (c : Char) : Bool :=
  c = ' ' || c = '\n' || c = '\t' || c = '\r'

/-- The text behind its leading blanks. -/
def dropBlanks (text : List Char) : List Char :=
  text.dropWhile isBlank

theorem length_dropBlanks_le (text : List Char) :
    (dropBlanks text).length ≤ text.length :=
  (List.dropWhile_suffix isBlank).length_le

/-- If something other than blanks starts at `c`, what comes behind `c` is shorter than the
text. -/
theorem length_lt_of_dropBlanks_eq_cons
    {text rest : List Char}
    {c : Char}
    (h : dropBlanks text = c :: rest) :
    rest.length < text.length := by
  have bound := length_dropBlanks_le text
  rw [h] at bound
  simp only [List.length_cons] at bound
  omega

/-- The text behind a word. -/
def scanWord : List Char → List Char → Except Failure (List Char)
  | [], text => .ok text
  | _ :: _, [] => .error (.before .unfinishedValue [])
  | expected :: word, c :: rest =>
    if c = expected then scanWord word rest
    else .error (.atNext .expectedWord (c :: rest))

theorem length_le_of_scanWord
    {word text rest : List Char}
    (h : scanWord word text = .ok rest) :
    rest.length ≤ text.length := by
  fun_induction scanWord word text with
  | case1 text =>
      cases h
      exact Nat.le_refl _
  | case2 => cases h
  | case3 _ _ _ ih =>
      have := ih h
      simp only [List.length_cons]
      omega
  | case4 => cases h

/-- The text behind the colon of a member. -/
def scanColon (text : List Char) : Except Failure (List Char) :=
  match dropBlanks text with
  | [] => .error (.atNext .unfinishedObject [])
  | c :: rest => if c = ':' then .ok rest else .error (.atNext .expectedColon (c :: rest))

theorem length_lt_of_scanColon
    {text rest : List Char}
    (h : scanColon text = .ok rest) :
    rest.length < text.length := by
  unfold scanColon at h
  split at h
  · cases h
  · rename_i dropped
    have := length_lt_of_dropBlanks_eq_cons dropped
    split at h
    · cases h
      omega
    · cases h

/-! ## Strings -/

/-- The character that a one-letter escape stands for. -/
def simpleEscape? (c : Char) : Option Char :=
  if c = '"' then some '"'
  else if c = '\\' then some '\\'
  else if c = '/' then some '/'
  else if c = 'b' then some '\x08'
  else if c = 'f' then some '\x0c'
  else if c = 'n' then some '\n'
  else if c = 'r' then some '\r'
  else if c = 't' then some '\t'
  else none

/-- The fault of a text that does not start with four hexadecimal digits. -/
def badUnit (text : List Char) : Failure :=
  if Text.Utf8.size text < 4 then ⟨.unfinishedString, 0⟩
  else ⟨.invalidEscape, Text.Utf8.size text - 4⟩

/-- A code unit written with four hexadecimal digits. -/
def scanUnit (text : List Char) : Except Failure (Reading Nat) :=
  match text with
  | a :: b :: c :: d :: rest =>
    match Text.Hexadecimal.number? [a, b, c, d] with
    | some unit => .ok (unit, rest)
    | none => .error (badUnit text)
  | _ => .error (badUnit text)

/-- Whether a code unit is the first of a surrogate pair. -/
def isLeading (unit : Nat) : Bool :=
  0xD800 ≤ unit && unit ≤ 0xDBFF

/-- Whether a code unit is the second of a surrogate pair. -/
def isTrailing (unit : Nat) : Bool :=
  0xDC00 ≤ unit && unit ≤ 0xDFFF

/-- The character of a surrogate pair. -/
def ofSurrogates (leading trailing : Nat) : Char :=
  Char.ofNat (0x10000 + (leading - 0xD800) * 1024 + (trailing - 0xDC00))

/-- The second half of a surrogate pair, behind the digits of the first. -/
def scanTrailing (leading : Nat) : List Char → Except Failure (Reading Char)
  | [] => .error (.before .unfinishedString [])
  | c :: rest =>
    if c = '\\' then
      match rest with
      | [] => .error (.before .unfinishedString [])
      | d :: rest =>
        if d = 'u' then
          match scanUnit rest with
          | .error failure => .error failure
          | .ok (unit, rest) =>
            if isTrailing unit then .ok (ofSurrogates leading unit, rest)
            else .error (.before .unpairedSurrogate rest)
        else
          .error (.atNext .missingSurrogate (d :: rest))
    else
      .error (.atNext .missingSurrogate (c :: rest))

/-- The character that an escape stands for, behind its backslash. -/
def scanEscape : List Char → Except Failure (Reading Char)
  | [] => .error (.before .unfinishedString [])
  | c :: rest =>
    if c = 'u' then
      match scanUnit rest with
      | .error failure => .error failure
      | .ok (unit, rest) =>
        if isTrailing unit then .error (.before .unpairedSurrogate rest)
        else if isLeading unit then scanTrailing unit rest
        else .ok (Char.ofNat unit, rest)
    else
      match simpleEscape? c with
      | some meant => .ok (meant, rest)
      | none => .error (.atNext .invalidEscape (c :: rest))

theorem length_lt_of_scanUnit
    {text rest : List Char}
    {unit : Nat}
    (h : scanUnit text = .ok (unit, rest)) :
    rest.length < text.length := by
  unfold scanUnit at h
  split at h
  · split at h
    · cases h
      simp only [List.length_cons]
      omega
    · cases h
  · cases h

theorem length_lt_of_scanTrailing
    {leading : Nat}
    {text rest : List Char}
    {c : Char}
    (h : scanTrailing leading text = .ok (c, rest)) :
    rest.length < text.length := by
  unfold scanTrailing at h
  split at h
  · cases h
  · split at h
    · split at h
      · cases h
      · split at h
        · split at h
          · cases h
          · rename_i scanned
            have := length_lt_of_scanUnit scanned
            split at h
            · injection h with pair
              injection pair with _ same
              subst same
              simp only [List.length_cons]
              omega
            · cases h
        · cases h
    · cases h

theorem length_lt_of_scanEscape
    {text rest : List Char}
    {c : Char}
    (h : scanEscape text = .ok (c, rest)) :
    rest.length < text.length := by
  unfold scanEscape at h
  split at h
  · cases h
  · split at h
    · split at h
      · cases h
      · rename_i scanned
        have := length_lt_of_scanUnit scanned
        simp only [List.length_cons]
        split at h
        · cases h
        · split at h
          · have := length_lt_of_scanTrailing h
            omega
          · cases h
            omega
    · split at h
      · cases h
        simp only [List.length_cons]
        omega
      · cases h

/-- The characters of a string, behind its opening quote. -/
def scanString (text : List Char) : Except Failure (Reading (List Char)) :=
  match text with
  | [] => .error (.before .unfinishedString [])
  | c :: rest =>
    if c = '"' then .ok ([], rest)
    else if c = '\\' then
      match _scanned : scanEscape rest with
      | .error failure => .error failure
      | .ok (meant, rest') =>
        match scanString rest' with
        | .error failure => .error failure
        | .ok (tail, end') => .ok (meant :: tail, end')
    else if c.toNat < 0x20 then .error (.before .controlCharacter rest)
    else
      match scanString rest with
      | .error failure => .error failure
      | .ok (tail, end') => .ok (c :: tail, end')
termination_by text.length
decreasing_by
  · have := length_lt_of_scanEscape _scanned
    simp only [List.length_cons]
    omega
  · simp only [List.length_cons]
    omega

theorem length_lt_of_scanString
    {text rest chars : List Char}
    (h : scanString text = .ok (chars, rest)) :
    rest.length < text.length := by
  fun_induction scanString text generalizing chars rest with
  | case1 => cases h
  | case2 =>
      cases h
      simp
  | case3 => cases h
  | case4 => cases h
  | case5 _ _ _ scanned _ _ recursion _ ih =>
      cases h
      have := length_lt_of_scanEscape scanned
      have := ih recursion
      simp only [List.length_cons]
      omega
  | case6 => cases h
  | case7 => cases h
  | case8 _ _ _ _ _ _ _ recursion ih =>
      cases h
      have := ih recursion
      simp only [List.length_cons]
      omega

/-! ## Values without parts -/

/-- A word, string or number.  Everything else is no start of a value. -/
def scanScalar : List Char → Except Failure (Reading Value)
  | [] => .error (.atNext .unfinishedValue [])
  | c :: rest =>
    if c = 'n' then (scanWord ['u', 'l', 'l'] rest).map fun rest => (.null, rest)
    else if c = 't' then (scanWord ['r', 'u', 'e'] rest).map fun rest => (.bool true, rest)
    else if c = 'f' then (scanWord ['a', 'l', 's', 'e'] rest).map fun rest => (.bool false, rest)
    else if c = '"' then
      (scanString rest).map fun (text, rest) => (.string (String.ofList text), rest)
    else if c = '-' then
      (scanNumber true rest).map fun (number, rest) => (.number number, rest)
    else if c.isDigit then
      (scanNumber false (c :: rest)).map fun (number, rest) => (.number number, rest)
    else
      .error (.atNext .expectedValue (c :: rest))

theorem length_lt_of_scanScalar
    {text rest : List Char}
    {value : Value}
    (h : scanScalar text = .ok (value, rest)) :
    rest.length < text.length := by
  unfold scanScalar at h
  split at h
  · cases h
  · simp only [List.length_cons]
    split at h
    · rcases map_eq_ok_iff.mp h with ⟨_, scanned, same⟩
      cases same
      have := length_le_of_scanWord scanned
      omega
    · split at h
      · rcases map_eq_ok_iff.mp h with ⟨_, scanned, same⟩
        cases same
        have := length_le_of_scanWord scanned
        omega
      · split at h
        · rcases map_eq_ok_iff.mp h with ⟨_, scanned, same⟩
          cases same
          have := length_le_of_scanWord scanned
          omega
        · split at h
          · rcases map_eq_ok_iff.mp h with ⟨⟨_, _⟩, scanned, same⟩
            cases same
            have := length_lt_of_scanString scanned
            omega
          · split at h
            · rcases map_eq_ok_iff.mp h with ⟨⟨_, _⟩, scanned, same⟩
              cases same
              have := length_lt_of_scanNumber scanned
              omega
            · split at h
              · rcases map_eq_ok_iff.mp h with ⟨⟨_, _⟩, scanned, same⟩
                cases same
                have := length_lt_of_scanNumber scanned
                simpa using this
              · cases h

end ReviewQuery.Json
