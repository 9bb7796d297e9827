import ReviewQuery.Json.Scalar

/-!
# Skipping JSON values

The value of a member that nobody asks for is passed over.  Its brackets, words and strings must
still be in order, but nothing is built: numbers are not evaluated, surrogates are not paired, and
there is no limit to the nesting, because the open brackets are kept in a list.
-/

namespace ReviewQuery.Json

/-! ## Values without parts -/

/-- Pass over an escape, behind its backslash. -/
def skipEscape : List Char → Except Failure (List Char)
  | [] => .error (.before .unfinishedString [])
  | c :: rest =>
    if c = 'u' then (scanUnit rest).map Prod.snd
    else
      match simpleEscape? c with
      | some _ => .ok rest
      | none => .error (.atNext .invalidEscape (c :: rest))

theorem length_lt_of_skipEscape
    {text rest : List Char}
    (h : skipEscape text = .ok rest) :
    rest.length < text.length := by
  unfold skipEscape at h
  split at h
  · cases h
  · simp only [List.length_cons]
    split at h
    · rcases map_eq_ok_iff.mp h with ⟨⟨_, _⟩, scanned, same⟩
      cases same
      have := length_lt_of_scanUnit scanned
      dsimp only
      omega
    · split at h
      · cases h
        omega
      · cases h

/-- Pass over a string, behind its opening quote. -/
def skipString (text : List Char) : Except Failure (List Char) :=
  match text with
  | [] => .error (.before .unfinishedString [])
  | c :: rest =>
    if c = '"' then .ok rest
    else if c = '\\' then
      match _skipped : skipEscape rest with
      | .error failure => .error failure
      | .ok rest' => skipString rest'
    else if c.toNat < 0x20 then .error (.before .controlCharacter (c :: rest))
    else skipString rest
termination_by text.length
decreasing_by
  · have := length_lt_of_skipEscape _skipped
    simp only [List.length_cons]
    omega
  · simp only [List.length_cons]
    omega

theorem length_lt_of_skipString
    {text rest : List Char}
    (h : skipString text = .ok rest) :
    rest.length < text.length := by
  fun_induction skipString text with
  | case1 => cases h
  | case2 =>
      cases h
      simp
  | case3 => cases h
  | case4 _ _ skipped _ ih =>
      have := length_lt_of_skipEscape skipped
      have := ih h
      simp only [List.length_cons]
      omega
  | case5 => cases h
  | case6 _ _ _ _ _ ih =>
      have := ih h
      simp only [List.length_cons]
      omega

/-- Pass over a number, behind its sign. -/
def skipNumber (text : List Char) : Except Failure (List Char) :=
  (Literal.scan .invalidNumber false text).map Prod.snd

/-- Pass over a word, string or number.  Everything else is no start of a value. -/
def skipScalar : List Char → Except Failure (List Char)
  | [] => .error (.atNext .unfinishedValue [])
  | c :: rest =>
    if c = 'n' then scanWord ['u', 'l', 'l'] rest
    else if c = 't' then scanWord ['r', 'u', 'e'] rest
    else if c = 'f' then scanWord ['a', 'l', 's', 'e'] rest
    else if c = '"' then skipString rest
    else if c = '-' then skipNumber rest
    else if c.isDigit then skipNumber (c :: rest)
    else .error (.atNext .expectedValue (c :: rest))

theorem length_lt_of_skipNumber
    {text rest : List Char}
    (h : skipNumber text = .ok rest) :
    rest.length < text.length := by
  rcases map_eq_ok_iff.mp h with ⟨⟨_, _⟩, scanned, same⟩
  cases same
  exact length_lt_of_scan scanned

theorem length_lt_of_skipScalar
    {text rest : List Char}
    (h : skipScalar text = .ok rest) :
    rest.length < text.length := by
  unfold skipScalar at h
  split at h
  · cases h
  · simp only [List.length_cons]
    split at h
    · have := length_le_of_scanWord h
      omega
    · split at h
      · have := length_le_of_scanWord h
        omega
      · split at h
        · have := length_le_of_scanWord h
          omega
        · split at h
          · have := length_lt_of_skipString h
            omega
          · split at h
            · have := length_lt_of_skipNumber h
              omega
            · split at h
              · have := length_lt_of_skipNumber h
                simpa using this
              · cases h

/-! ## Values with parts -/

/-- An open bracket. -/
inductive Bracket where
  | array
  | object
  deriving DecidableEq, Repr

namespace Bracket

/-- The character that closes the bracket. -/
def closing : Bracket → Char
  | .array => ']'
  | .object => '\x7d'

/-- The fault of a text that ends inside the bracket. -/
def unfinished : Bracket → Reason
  | .array => .unfinishedArray
  | .object => .unfinishedObject

/-- The fault of a part that is followed by neither a comma nor the closing bracket. -/
def expectedComma : Bracket → Reason
  | .array => .expectedCommaOrBracket
  | .object => .expectedCommaOrBrace

end Bracket

/-- Pass over a member's name and its colon; an array has no names.  `text` starts at the part. -/
def skipKey (bracket : Bracket) (text : List Char) : Except Failure (List Char) :=
  match bracket with
  | .array => .ok text
  | .object =>
    match dropBlanks text with
    | [] => .error (.atNext .unfinishedObject [])
    | c :: rest =>
      if c = '"' then
        match skipString rest with
        | .error failure => .error failure
        | .ok rest => scanColon rest
      else .error (.atNext .expectedKey (c :: rest))

theorem length_le_of_skipKey
    {bracket : Bracket}
    {text rest : List Char}
    (h : skipKey bracket text = .ok rest) :
    rest.length ≤ text.length := by
  unfold skipKey at h
  split at h
  · cases h
    exact Nat.le_refl _
  · split at h
    · cases h
    · rename_i dropped
      have := length_lt_of_dropBlanks_eq_cons dropped
      split at h
      · split at h
        · cases h
        · rename_i skipped
          have := length_lt_of_skipString skipped
          have := length_lt_of_scanColon h
          omega
      · cases h

mutual

/-- Pass over the value that starts next and over the rest of the brackets around it. -/
def skipValue (brackets : List Bracket) (text : List Char) : Except Failure (List Char) :=
  match _opened : dropBlanks text with
  | [] => .error (.atNext .unfinishedValue [])
  | c :: rest =>
    if c = '[' then skipFirst .array brackets rest
    else if c = '\x7b' then skipFirst .object brackets rest
    else
      match _scalar : skipScalar (c :: rest) with
      | .error failure => .error failure
      | .ok rest' => skipRest brackets rest'
termination_by 2 * text.length
decreasing_by
  · have := length_lt_of_dropBlanks_eq_cons _opened
    omega
  · have := length_lt_of_dropBlanks_eq_cons _opened
    omega
  · have := length_lt_of_dropBlanks_eq_cons _opened
    have := length_lt_of_skipScalar _scalar
    simp only [List.length_cons] at this
    omega

/-- Go on behind a bracket that has just been opened. -/
def skipFirst
    (bracket : Bracket)
    (brackets : List Bracket)
    (text : List Char) : Except Failure (List Char) :=
  match _first : dropBlanks text with
  | [] => .error (.atNext bracket.unfinished [])
  | c :: rest =>
    if c = bracket.closing then skipRest brackets rest
    else
      match _key : skipKey bracket text with
      | .error failure => .error failure
      | .ok rest' => skipValue (bracket :: brackets) rest'
termination_by 2 * text.length + 1
decreasing_by
  · have := length_lt_of_dropBlanks_eq_cons _first
    omega
  · have := length_le_of_skipKey _key
    omega

/-- Go on behind a value that has just ended. -/
def skipRest (brackets : List Bracket) (text : List Char) : Except Failure (List Char) :=
  match brackets with
  | [] => .ok text
  | bracket :: brackets =>
    match _next : dropBlanks text with
    | [] => .error (.atNext bracket.unfinished [])
    | c :: rest =>
      if c = ',' then
        match _key : skipKey bracket rest with
        | .error failure => .error failure
        | .ok rest' => skipValue (bracket :: brackets) rest'
      else if c = bracket.closing then skipRest brackets rest
      else .error (.atNext bracket.expectedComma (c :: rest))
termination_by 2 * text.length
decreasing_by
  · have := length_lt_of_dropBlanks_eq_cons _next
    have := length_le_of_skipKey _key
    omega
  · have := length_lt_of_dropBlanks_eq_cons _next
    omega

end

mutual

theorem length_lt_of_skipValue
    (brackets : List Bracket)
    (text rest : List Char)
    (h : skipValue brackets text = .ok rest) :
    rest.length < text.length := by
  rw [skipValue] at h
  split at h
  · cases h
  · rename_i opened
    have := length_lt_of_dropBlanks_eq_cons opened
    split at h
    · have := length_le_of_skipFirst _ _ _ _ h
      omega
    · split at h
      · have := length_le_of_skipFirst _ _ _ _ h
        omega
      · split at h
        · cases h
        · rename_i scanned
          have := length_lt_of_skipScalar scanned
          have := length_le_of_skipRest _ _ _ h
          simp only [List.length_cons] at *
          omega
termination_by 2 * text.length
decreasing_by
  all_goals
    simp only [List.length_cons] at *
    omega

theorem length_le_of_skipFirst
    (bracket : Bracket)
    (brackets : List Bracket)
    (text rest : List Char)
    (h : skipFirst bracket brackets text = .ok rest) :
    rest.length ≤ text.length := by
  rw [skipFirst] at h
  split at h
  · cases h
  · rename_i first
    have := length_lt_of_dropBlanks_eq_cons first
    split at h
    · have := length_le_of_skipRest _ _ _ h
      omega
    · split at h
      · cases h
      · rename_i key
        have := length_le_of_skipKey key
        have := length_lt_of_skipValue _ _ _ h
        omega
termination_by 2 * text.length + 1
decreasing_by
  all_goals omega

theorem length_le_of_skipRest
    (brackets : List Bracket)
    (text rest : List Char)
    (h : skipRest brackets text = .ok rest) :
    rest.length ≤ text.length := by
  rw [skipRest.eq_def] at h
  split at h
  · cases h
    exact Nat.le_refl _
  · split at h
    · cases h
    · rename_i next
      have := length_lt_of_dropBlanks_eq_cons next
      split at h
      · split at h
        · cases h
        · rename_i key
          have := length_le_of_skipKey key
          have := length_lt_of_skipValue _ _ _ h
          omega
      · split at h
        · have := length_le_of_skipRest _ _ _ h
          omega
        · cases h
termination_by 2 * text.length
decreasing_by
  all_goals omega

end

end ReviewQuery.Json
