import ReviewQuery.Json.Scalar

/-!
# Reading JSON values

A value is read with a stack of the arrays and objects that surround it.  `readValue` reads the
value that starts next; `resume` takes a value that has just been completed and goes on in the
innermost surrounding array or object.  Both shorten the text with every step.  The stack also
limits the nesting: an array or object inside `nestingLimit` others is refused.
-/

namespace ReviewQuery.Json

/-! ## Surroundings -/

/-- An array or object that has been opened and not yet closed. -/
inductive Frame where
  /-- An array with its items so far, the latest first. -/
  | array (done : List Value)
  /-- An object with its members so far and the name whose value is read next. -/
  | object (done : Members) (name : String)

/-- The number of arrays and objects that may be open when another one starts. -/
def nestingLimit : Nat := 127

/-- A member's name and its colon, behind the opening quote of the name. -/
def scanKey (text : List Char) : Except Failure (Reading String) :=
  match scanString text with
  | .error failure => .error failure
  | .ok (name, rest) => (scanColon rest).map fun rest => (String.ofList name, rest)

theorem length_lt_of_scanKey
    {text rest : List Char}
    {name : String}
    (h : scanKey text = .ok (name, rest)) :
    rest.length < text.length := by
  unfold scanKey at h
  split at h
  · cases h
  · rename_i scanned
    have := length_lt_of_scanString scanned
    rcases map_eq_ok_iff.mp h with ⟨_, behind, same⟩
    cases same
    have := length_lt_of_scanColon behind
    omega

/-! ## Values with parts -/

mutual

/-- Read the value that starts next, inside the given surroundings. -/
def readValue (frames : List Frame) (text : List Char) : Except Failure (Reading Value) :=
  match _opened : dropBlanks text with
  | [] => .error (.atNext .unfinishedValue [])
  | c :: rest =>
    if c = '[' then
      if frames.length < nestingLimit then
        match _first : dropBlanks rest with
        | [] => .error (.atNext .unfinishedArray [])
        | d :: rest' =>
          if d = ']' then resume frames (.array []) rest'
          else readValue (.array [] :: frames) rest
      else
        .error (.atNext .tooDeep (c :: rest))
    else if c = '\x7b' then
      if frames.length < nestingLimit then
        match _first : dropBlanks rest with
        | [] => .error (.atNext .unfinishedObject [])
        | d :: rest' =>
          if d = '\x7d' then resume frames (.object []) rest'
          else if d = '"' then
            match _key : scanKey rest' with
            | .error failure => .error failure
            | .ok (name, rest'') => readValue (.object [] name :: frames) rest''
          else .error (.atNext .expectedKey (d :: rest'))
      else
        .error (.atNext .tooDeep (c :: rest))
    else
      match _scalar : scanScalar (c :: rest) with
      | .error failure => .error failure
      | .ok (value, rest') => resume frames value rest'
termination_by text.length
decreasing_by
  · have := length_lt_of_dropBlanks_eq_cons _opened
    have := length_lt_of_dropBlanks_eq_cons _first
    omega
  · exact length_lt_of_dropBlanks_eq_cons _opened
  · have := length_lt_of_dropBlanks_eq_cons _opened
    have := length_lt_of_dropBlanks_eq_cons _first
    omega
  · have := length_lt_of_dropBlanks_eq_cons _opened
    have := length_lt_of_dropBlanks_eq_cons _first
    have := length_lt_of_scanKey _key
    omega
  · have := length_lt_of_dropBlanks_eq_cons _opened
    have := length_lt_of_scanScalar _scalar
    simp only [List.length_cons] at this
    omega

/-- Go on behind a value that has just been completed, inside the given surroundings. -/
def resume
    (frames : List Frame)
    (value : Value)
    (text : List Char) : Except Failure (Reading Value) :=
  match frames with
  | [] => .ok (value, text)
  | .array done :: frames =>
    match _next : dropBlanks text with
    | [] => .error (.atNext .unfinishedArray [])
    | c :: rest =>
      if c = ']' then resume frames (.array (value :: done).reverse) rest
      else if c = ',' then
        match dropBlanks rest with
        | [] => .error (.atNext .unfinishedValue [])
        | d :: rest' =>
          if d = ']' then .error (.atNext .trailingComma (d :: rest'))
          else readValue (.array (value :: done) :: frames) rest
      else .error (.atNext .expectedCommaOrBracket (c :: rest))
  | .object done name :: frames =>
    match _next : dropBlanks text with
    | [] => .error (.atNext .unfinishedObject [])
    | c :: rest =>
      if c = '\x7d' then resume frames (.object (Members.insert name value done)) rest
      else if c = ',' then
        match _second : dropBlanks rest with
        | [] => .error (.atNext .unfinishedValue [])
        | d :: rest' =>
          if d = '"' then
            match _key : scanKey rest' with
            | .error failure => .error failure
            | .ok (name', rest'') =>
              readValue (.object (Members.insert name value done) name' :: frames) rest''
          else if d = '\x7d' then .error (.atNext .trailingComma (d :: rest'))
          else .error (.atNext .expectedKey (d :: rest'))
      else .error (.atNext .expectedCommaOrBrace (c :: rest))
termination_by text.length
decreasing_by
  · exact length_lt_of_dropBlanks_eq_cons _next
  · exact length_lt_of_dropBlanks_eq_cons _next
  · exact length_lt_of_dropBlanks_eq_cons _next
  · have := length_lt_of_dropBlanks_eq_cons _next
    have := length_lt_of_dropBlanks_eq_cons _second
    have := length_lt_of_scanKey _key
    omega

end

/-! ## Whole texts -/

/-- What stands next in a text, for a message about its type.  The parts of arrays and objects
are not read. -/
def scanFound (text : List Char) : Except Failure (Reading Found) :=
  match text with
  | '[' :: _ => .ok (.array, text)
  | '\x7b' :: _ => .ok (.object, text)
  | _ =>
    match scanScalar text with
    | .error failure => .error failure
    | .ok (.bool value, rest) => .ok (.bool value, rest)
    | .ok (.number value, rest) => .ok (.number value, rest)
    | .ok (.string value, rest) => .ok (.string value, rest)
    | .ok (_, rest) => .ok (.null, rest)

/-- The fault of a text whose next part, which starts at once, has the wrong type. -/
def wrongType (expected : String) (text : List Char) : Failure :=
  match scanFound text with
  | .error failure => failure
  | .ok (found, rest) => .before (.wrongType found expected) rest

/-- What was read, provided that only blanks follow. -/
def finish {α : Type} : Reading α → Except Failure α
  | (value, rest) =>
    match dropBlanks rest with
    | [] => .ok value
    | c :: rest => .error (.atNext .trailingCharacters (c :: rest))

/-- The items of an array; other values have none. -/
def Value.items : Value → List Value
  | .array items => items
  | _ => []

/-- The items of the array that a text consists of. -/
def readItems (text : List Char) : Except Failure (List Value) :=
  match dropBlanks text with
  | [] => .error (.atNext .unfinishedValue [])
  | c :: rest =>
    if c = '[' then
      match readValue [] (c :: rest) with
      | .error failure => .error failure
      | .ok (value, rest) => finish (value.items, rest)
    else
      .error (wrongType "a sequence" (c :: rest))

/-- The value that a text consists of. -/
def decodeValue (text : String) : Except DecodeError Value :=
  match readValue [] text.toList with
  | .error failure => .error (failure.locate text.toList)
  | .ok reading => (finish reading).mapError (·.locate text.toList)

/-- The items of the array that a text consists of, with the place of the first fault. -/
def decodeItems (text : String) : Except DecodeError (List Value) :=
  (readItems text.toList).mapError (·.locate text.toList)

end ReviewQuery.Json
