import ReviewQuery.Json.Reader
import ReviewQuery.Json.Skip

/-!
# Records from JSON documents

A record is written either as an object, with its members in any order and among members that
nobody asks for, or as an array of its values in the order of the record.  `Record.decode` reads
both forms.  In the object form a member may occur once; members with other names are passed over.
-/

namespace ReviewQuery.Json

/-! ## Strings -/

/-- The string that comes next. -/
def readText (text : List Char) : Except Failure (Reading String) :=
  match dropBlanks text with
  | [] => .error (.atNext .unfinishedValue [])
  | c :: rest =>
    if c = '"' then (scanString rest).map fun (chars, rest) => (String.ofList chars, rest)
    else .error (wrongType "a string" (c :: rest))

/-- The string that comes next, or `none` for a null. -/
def readOptionalText (text : List Char) : Except Failure (Reading (Option String)) :=
  match dropBlanks text with
  | [] => .error (.atNext .unfinishedValue [])
  | c :: rest =>
    if c = 'n' then (scanWord ['u', 'l', 'l'] rest).map fun rest => (none, rest)
    else (readText (c :: rest)).map fun (chars, rest) => (some chars, rest)

theorem length_lt_of_readText
    {text rest : List Char}
    {result : String}
    (h : readText text = .ok (result, rest)) :
    rest.length < text.length := by
  unfold readText at h
  split at h
  · cases h
  · rename_i dropped
    have := length_lt_of_dropBlanks_eq_cons dropped
    split at h
    · rcases map_eq_ok_iff.mp h with ⟨⟨_, _⟩, scanned, same⟩
      cases same
      have := length_lt_of_scanString scanned
      omega
    · cases h

theorem length_lt_of_readOptionalText
    {text rest : List Char}
    {result : Option String}
    (h : readOptionalText text = .ok (result, rest)) :
    rest.length < text.length := by
  unfold readOptionalText at h
  split at h
  · cases h
  · rename_i dropped
    have bound := length_dropBlanks_le text
    rw [dropped] at bound
    simp only [List.length_cons] at bound
    split at h
    · rcases map_eq_ok_iff.mp h with ⟨_, scanned, same⟩
      cases same
      have := length_le_of_scanWord scanned
      omega
    · rcases map_eq_ok_iff.mp h with ⟨⟨_, _⟩, scanned, same⟩
      cases same
      have := length_lt_of_readText scanned
      simp only [List.length_cons] at this
      omega

/-- A way to read one kind of value, which takes at least one character off the text. -/
structure Reader (α : Type) where
  read : List Char → Except Failure (Reading α)
  length_lt_of_read :
    ∀ {value : α} {text rest : List Char},
      read text = .ok (value, rest) → rest.length < text.length

namespace Reader

/-- Reads a string. -/
def text : Reader String :=
  ⟨readText, length_lt_of_readText⟩

/-- Reads a string or a null. -/
def optionalText : Reader (Option String) :=
  ⟨readOptionalText, length_lt_of_readOptionalText⟩

end Reader

/-! ## The shape of a record -/

/-- One member of a record: how its value is read into a draft of the record. -/
structure Member (δ : Type) where
  name : String
  /-- Whether the array form may end before this member. -/
  isOptional : Bool
  isSet : δ → Bool
  read : δ → List Char → Except Failure (Reading δ)
  length_lt_of_read :
    ∀ {draft draft' : δ} {text rest : List Char},
      read draft text = .ok (draft', rest) → rest.length < text.length

/-- The member whose value is read by `reader`, found in a draft by `get?` and put there by
`set`. -/
def Member.of
    {α δ : Type}
    (name : String)
    (isOptional : Bool)
    (reader : Reader α)
    (get? : δ → Option α)
    (set : δ → α → δ) : Member δ where
  name := name
  isOptional := isOptional
  isSet := fun draft => (get? draft).isSome
  read := fun draft text => (reader.read text).map fun (value, rest) => (set draft value, rest)
  length_lt_of_read := by
    intro draft draft' text rest h
    rcases map_eq_ok_iff.mp h with ⟨⟨_, _⟩, read, same⟩
    cases same
    exact reader.length_lt_of_read read

/-- A record: its members in order, the empty draft, and how a draft is completed.  Completing
fails with the name of a member that is missing. -/
structure Record (δ ρ : Type) where
  title : String
  members : List (Member δ)
  blank : δ
  build : δ → Except String ρ

namespace Record

variable {δ ρ : Type}

/-! ## The object form -/

/-- The text behind a closing bracket, if that comes next. -/
def behindClosing (closing : Char) (text : List Char) : List Char :=
  match dropBlanks text with
  | [] => []
  | c :: rest => if c = closing then rest else c :: rest

/-- One member, behind the opening quote of its name. -/
def readMember
    (record : Record δ ρ)
    (draft : δ)
    (text : List Char) : Except Failure (Reading δ) :=
  match scanString text with
  | .error failure => .error failure
  | .ok (name, rest) =>
    match record.members.find? (·.name = String.ofList name) with
    | some member =>
      if member.isSet draft then
        .error (.before (.repeatedMember member.name) (behindClosing '\x7d' rest))
      else
        match scanColon rest with
        | .error failure => .error failure
        | .ok rest => member.read draft rest
    | none =>
      match scanColon rest with
      | .error failure => .error failure
      | .ok rest => (skipValue [] rest).map fun rest => (draft, rest)

theorem length_lt_of_readMember
    {record : Record δ ρ}
    {draft draft' : δ}
    {text rest : List Char}
    (h : record.readMember draft text = .ok (draft', rest)) :
    rest.length < text.length := by
  unfold readMember at h
  split at h
  · cases h
  · rename_i scanned
    have := length_lt_of_scanString scanned
    split at h
    · split at h
      · cases h
      · split at h
        · cases h
        · rename_i member _ _ _ _ behind
          have := length_lt_of_scanColon behind
          have := member.length_lt_of_read h
          omega
    · split at h
      · cases h
      · rename_i behind
        have := length_lt_of_scanColon behind
        rcases map_eq_ok_iff.mp h with ⟨_, skipped, same⟩
        cases same
        have := length_lt_of_skipValue _ _ _ skipped
        omega

/-- The members of an object, behind the opening quote of the first name, up to the closing
bracket. -/
def readMembers
    (record : Record δ ρ)
    (draft : δ)
    (text : List Char) : Except Failure (Reading δ) :=
  match _member : record.readMember draft text with
  | .error failure => .error failure
  | .ok (draft, rest) =>
    match _next : dropBlanks rest with
    | [] => .error (.atNext .unfinishedObject [])
    | c :: rest' =>
      if c = '\x7d' then .ok (draft, rest')
      else if c = ',' then
        match _second : dropBlanks rest' with
        | [] => .error (.atNext .unfinishedValue [])
        | d :: rest'' =>
          if d = '"' then readMembers record draft rest''
          else if d = '\x7d' then .error (.atNext .trailingComma (d :: rest''))
          else .error (.atNext .expectedKey (d :: rest''))
      else .error (.atNext .expectedCommaOrBrace (c :: rest'))
termination_by text.length
decreasing_by
  have := length_lt_of_readMember _member
  have := length_lt_of_dropBlanks_eq_cons _next
  have := length_lt_of_dropBlanks_eq_cons _second
  omega

/-- The object form, behind its opening bracket. -/
def readObject (record : Record δ ρ) (text : List Char) : Except Failure (Reading δ) :=
  match dropBlanks text with
  | [] => .error (.atNext .unfinishedObject [])
  | c :: rest =>
    if c = '\x7d' then .ok (record.blank, rest)
    else if c = '"' then record.readMembers record.blank rest
    else .error (.atNext .expectedKey (c :: rest))

/-! ## The array form -/

/-- What a message calls the array form. -/
def arrayTitle (record : Record δ ρ) : String :=
  record.title ++ " with " ++ toString record.members.length ++ " elements"

/-- The place behind the comma in front of an item; the first item has none. -/
def behindComma (isFirst : Bool) (text : List Char) : Except Failure (List Char) :=
  match dropBlanks text with
  | [] => .error (.atNext .unfinishedArray [])
  | c :: rest =>
    if isFirst then .ok (c :: rest)
    else if c = ',' then
      match dropBlanks rest with
      | [] => .error (.atNext .unfinishedValue [])
      | d :: rest' =>
        if d = ']' then .error (.atNext .trailingComma (d :: rest'))
        else .ok rest
    else .error (.atNext .expectedCommaOrBracket (c :: rest))

/-- Values for the given members, of which the first has the given index.  An array that ends
early is completed only by optional members. -/
def readElements
    (record : Record δ ρ)
    (members : List (Member δ))
    (index : Nat)
    (draft : δ)
    (text : List Char) : Except Failure (Reading δ) :=
  match members with
  | [] => .ok (draft, text)
  | member :: members =>
    match dropBlanks text with
    | ']' :: rest =>
      if member.isOptional then record.readElements members (index + 1) draft (']' :: rest)
      else .error (.before (.wrongLength index record.arrayTitle) rest)
    | _ =>
      match behindComma (index = 0) text with
      | .error failure => .error failure
      | .ok rest =>
        match member.read draft rest with
        | .error failure => .error failure
        | .ok (draft, rest) => record.readElements members (index + 1) draft rest

/-- The text behind the bracket that closes an array whose values have all been read. -/
def closeArray (text : List Char) : Except Failure (List Char) :=
  match dropBlanks text with
  | [] => .error (.atNext .unfinishedArray [])
  | c :: rest =>
    if c = ']' then .ok rest
    else if c = ',' then
      match dropBlanks rest with
      | [] => .error (.atNext .trailingCharacters [])
      | d :: rest' =>
        if d = ']' then .error (.atNext .trailingComma (d :: rest'))
        else .error (.atNext .trailingCharacters (d :: rest'))
    else .error (.atNext .trailingCharacters (c :: rest))

/-- The array form, behind its opening bracket. -/
def readArray (record : Record δ ρ) (text : List Char) : Except Failure (Reading δ) :=
  match record.readElements record.members 0 record.blank text with
  | .error failure => .error failure
  | .ok (draft, rest) => (closeArray rest).map fun rest => (draft, rest)

/-! ## Both forms -/

/-- The record that a complete draft stands for. -/
def complete (record : Record δ ρ) : Reading δ → Except Failure (Reading ρ)
  | (draft, rest) =>
    match record.build draft with
    | .ok result => .ok (result, rest)
    | .error name => .error (.before (.missingMember name) rest)

/-- The record that comes next. -/
def read (record : Record δ ρ) (text : List Char) : Except Failure (Reading ρ) :=
  match dropBlanks text with
  | [] => .error (.atNext .unfinishedValue [])
  | c :: rest =>
    if c = '[' then
      match record.readArray rest with
      | .error failure => .error failure
      | .ok reading => record.complete reading
    else if c = '\x7b' then
      match record.readObject rest with
      | .error failure => .error failure
      | .ok reading => record.complete reading
    else
      .error (wrongType record.title (c :: rest))

/-- The record that a whole text stands for, or its first fault and where it is. -/
def decode (record : Record δ ρ) (text : String) : Except DecodeError ρ :=
  match record.read text.toList with
  | .error failure => .error (failure.locate text.toList)
  | .ok reading => (finish reading).mapError (·.locate text.toList)

/-! ## What is read is gone -/

theorem length_lt_of_readMembers
    {record : Record δ ρ}
    {draft draft' : δ}
    {text rest : List Char}
    (h : record.readMembers draft text = .ok (draft', rest)) :
    rest.length < text.length := by
  fun_induction readMembers record draft text with
  | case1 => cases h
  | case2 => cases h
  | case3 _ _ _ _ member _ next =>
      cases h
      have := length_lt_of_readMember member
      have := length_lt_of_dropBlanks_eq_cons next
      omega
  | case4 => cases h
  | case5 _ _ _ _ member _ _ next _ second ih =>
      have := length_lt_of_readMember member
      have := length_lt_of_dropBlanks_eq_cons next
      have := length_lt_of_dropBlanks_eq_cons second
      have := ih h
      omega
  | case6 => cases h
  | case7 => cases h
  | case8 => cases h

theorem length_lt_of_readObject
    {record : Record δ ρ}
    {draft : δ}
    {text rest : List Char}
    (h : record.readObject text = .ok (draft, rest)) :
    rest.length < text.length := by
  unfold readObject at h
  split at h
  · cases h
  · rename_i dropped
    have := length_lt_of_dropBlanks_eq_cons dropped
    split at h
    · cases h
      omega
    · split at h
      · have := length_lt_of_readMembers h
        omega
      · cases h

theorem length_le_of_behindComma
    {isFirst : Bool}
    {text rest : List Char}
    (h : behindComma isFirst text = .ok rest) :
    rest.length ≤ text.length := by
  have bound := length_dropBlanks_le text
  unfold behindComma at h
  split at h
  · cases h
  · rename_i dropped
    rw [dropped] at bound
    simp only [List.length_cons] at bound
    split at h
    · cases h
      simpa using bound
    · split at h
      · split at h
        · cases h
        · split at h
          · cases h
          · cases h
            omega
      · cases h

theorem length_le_of_readElements
    {record : Record δ ρ}
    {members : List (Member δ)}
    {index : Nat}
    {draft draft' : δ}
    {text rest : List Char}
    (h : record.readElements members index draft text = .ok (draft', rest)) :
    rest.length ≤ text.length := by
  induction members generalizing index draft text with
  | nil =>
      cases h
      exact Nat.le_refl _
  | cons member members ih =>
      unfold readElements at h
      split at h
      · rename_i dropped
        have bound := length_dropBlanks_le text
        rw [dropped] at bound
        split at h
        · exact Nat.le_trans (ih h) bound
        · cases h
      · split at h
        · cases h
        · rename_i behind
          have := length_le_of_behindComma behind
          split at h
          · cases h
          · rename_i readValue
            have := member.length_lt_of_read readValue
            have := ih h
            omega

theorem length_lt_of_closeArray
    {text rest : List Char}
    (h : closeArray text = .ok rest) :
    rest.length < text.length := by
  unfold closeArray at h
  split at h
  · cases h
  · rename_i dropped
    have := length_lt_of_dropBlanks_eq_cons dropped
    split at h
    · cases h
      omega
    · split at h
      · split at h
        · cases h
        · split at h <;> cases h
      · cases h

theorem length_lt_of_readArray
    {record : Record δ ρ}
    {draft : δ}
    {text rest : List Char}
    (h : record.readArray text = .ok (draft, rest)) :
    rest.length < text.length := by
  unfold readArray at h
  split at h
  · cases h
  · rename_i readAll
    have := length_le_of_readElements readAll
    rcases map_eq_ok_iff.mp h with ⟨_, closed, same⟩
    cases same
    have := length_lt_of_closeArray closed
    omega

theorem length_eq_of_complete
    {record : Record δ ρ}
    {reading : Reading δ}
    {result : ρ}
    {rest : List Char}
    (h : record.complete reading = .ok (result, rest)) :
    rest.length = reading.2.length := by
  rcases reading with ⟨draft, _⟩
  unfold complete at h
  dsimp only at h
  split at h
  · cases h
    rfl
  · cases h

theorem length_lt_of_read
    {record : Record δ ρ}
    {result : ρ}
    {text rest : List Char}
    (h : record.read text = .ok (result, rest)) :
    rest.length < text.length := by
  unfold read at h
  split at h
  · cases h
  · rename_i dropped
    have := length_lt_of_dropBlanks_eq_cons dropped
    split at h
    · split at h
      · cases h
      · rename_i readAll
        have := length_lt_of_readArray readAll
        have := length_eq_of_complete h
        omega
    · split at h
      · split at h
        · cases h
        · rename_i readAll
          have := length_lt_of_readObject readAll
          have := length_eq_of_complete h
          omega
      · cases h

/-- Reads the record in either form. -/
def reader (record : Record δ ρ) : Reader ρ :=
  ⟨record.read, length_lt_of_read⟩

end Record

end ReviewQuery.Json
