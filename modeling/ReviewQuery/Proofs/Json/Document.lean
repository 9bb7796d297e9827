import ReviewQuery.Proofs.Json.ValueText

/-!
# Documents as trees

A document is what a JSON text says before anything is made of it.  Its numbers are still texts, so
that they may be of any size, and its objects are lists of members in which a name may come again.
`Document.render` writes a document without blanks.
-/

namespace ReviewQuery.Json

/-! ## Numbers as they are written -/

/-- Digits, at least one. -/
def IsDigits (text : List Char) : Prop :=
  text ≠ [] ∧ text.all Char.isDigit = true

instance (text : List Char) : Decidable (IsDigits text) :=
  inferInstanceAs (Decidable (text ≠ [] ∧ text.all Char.isDigit = true))

theorem IsDigits.isDigit_of_mem {text : List Char} (valid : IsDigits text) :
    ∀ c ∈ text, c.isDigit = true :=
  List.all_eq_true.mp valid.2

/-- An exponent as it is written: its letter, its sign, which may be missing, and its digits. -/
structure ExponentText where
  letter : Char
  sign : List Char
  digits : List Char
  letter_mem : letter ∈ ['e', 'E'] := by decide
  sign_mem : sign ∈ [[], ['+'], ['-']] := by decide
  digits_isDigits : IsDigits digits := by decide

/-- A number as it is written: its sign, the digits of its whole part, which start with a zero only
if that is all of them, the digits of its fraction, and its exponent. -/
structure NumberText where
  isNegative : Bool
  whole : List Char
  fraction : Option (List Char)
  exponent : Option ExponentText
  whole_isDigits : IsDigits whole := by decide
  whole_of_zero : whole.head? = some '0' → whole = ['0'] := by decide
  fraction_isDigits : ∀ digits ∈ fraction, IsDigits digits := by decide

namespace NumberText

/-- The fraction with its point. -/
def renderFraction : Option (List Char) → List Char
  | none => []
  | some digits => '.' :: digits

/-- The exponent with its letter and its sign. -/
def renderExponent : Option ExponentText → List Char
  | none => []
  | some exponent => exponent.letter :: (exponent.sign ++ exponent.digits)

/-- The number behind its sign. -/
def renderMagnitude (number : NumberText) : List Char :=
  number.whole ++ (renderFraction number.fraction ++ renderExponent number.exponent)

/-- The whole number text. -/
def render (number : NumberText) : List Char :=
  if number.isNegative then '-' :: number.renderMagnitude else number.renderMagnitude

/-- A magnitude starts with a digit. -/
theorem renderMagnitude_eq_cons (number : NumberText) :
    ∃ c tail, number.renderMagnitude = c :: tail ∧ c.isDigit = true := by
  cases shown : number.whole with
  | nil => exact absurd shown number.whole_isDigits.1
  | cons c tail =>
      refine ⟨c, tail ++ (renderFraction number.fraction ++ renderExponent number.exponent), ?_, ?_⟩
      · rw [renderMagnitude, shown, List.cons_append]
      · exact number.whole_isDigits.isDigit_of_mem c (shown ▸ List.mem_cons_self)

/-- The characters with which the documents start that have a reader of their own, and the one that
ends an array. -/
def marks : List Char :=
  ['n', '"', '[', '\x7b', ']']

/-- A number starts with a minus or a digit, neither of which is a mark. -/
theorem render_eq_cons (number : NumberText) :
    ∃ c tail, number.render = c :: tail ∧ isBlank c = false ∧ ∀ mark ∈ marks, c ≠ mark := by
  rw [render]
  split
  · exact ⟨'-', _, rfl, rfl, by simp [marks]⟩
  · rcases number.renderMagnitude_eq_cons with ⟨c, tail, shown, digit⟩
    refine ⟨c, tail, shown, isBlank_of_isDigit digit, ?_⟩
    intro mark among
    have noDigit : ∀ mark ∈ marks, mark.isDigit = false := by simp [marks]
    exact ne_of_isDigit digit (noDigit mark among)

end NumberText

/-! ## Documents -/

/-- A JSON document.  The names of an object may come more than once. -/
inductive Document where
  | null
  | bool (value : Bool)
  | number (text : NumberText)
  | string (text : String)
  | array (items : List Document)
  | object (members : List (String × Document))

namespace Document

/-- Parts with commas between them, in their bracket. -/
def renderParts (opening closing : Char) (parts : List (List Char)) : List Char :=
  opening :: [','].intercalate parts ++ [closing]

mutual

/-- The compact text of a document. -/
def render : Document → List Char
  | .null => ['n', 'u', 'l', 'l']
  | .bool true => ['t', 'r', 'u', 'e']
  | .bool false => ['f', 'a', 'l', 's', 'e']
  | .number text => text.render
  | .string text => renderString text
  | .array items => renderParts '[' ']' (itemTexts items)
  | .object members => renderParts '\x7b' '\x7d' (memberTexts members)

/-- The text of each item. -/
def itemTexts : List Document → List (List Char)
  | [] => []
  | item :: rest => render item :: itemTexts rest

/-- The text of each member, with its name. -/
def memberTexts : List (String × Document) → List (List Char)
  | [] => []
  | (name, item) :: rest => (renderString name ++ ':' :: render item) :: memberTexts rest

end

/-- The compact text of a document as a string. -/
def text (document : Document) : String :=
  String.ofList document.render

theorem itemTexts_eq_map (items : List Document) :
    itemTexts items = items.map render := by
  induction items with
  | nil => rfl
  | cons first rest ih => rw [itemTexts, ih, List.map_cons]

/-- The text of a member behind the opening quote of its name. -/
def behindQuote (member : String × Document) : List Char :=
  member.1.toList.flatMap escapeChar ++ '"' :: ':' :: member.2.render

theorem memberTexts_eq_map (members : List (String × Document)) :
    memberTexts members = members.map fun member => '"' :: behindQuote member := by
  induction members with
  | nil => rfl
  | cons first rest ih =>
      rw [memberTexts, ih, List.map_cons, behindQuote, renderString, List.cons_append,
        List.cons_append, List.append_assoc, List.singleton_append]

/-- Induction on a document, in which the parts of arrays and objects come with their
hypothesis. -/
@[induction_eliminator]
theorem induct
    {motive : Document → Prop}
    (null : motive .null)
    (bool : ∀ value, motive (.bool value))
    (number : ∀ text, motive (.number text))
    (string : ∀ text, motive (.string text))
    (array : ∀ items, (∀ item ∈ items, motive item) → motive (.array items))
    (object : ∀ members : List (String × Document),
      (∀ member ∈ members, motive member.2) → motive (.object members))
    (document : Document) : motive document := by
  refine @Document.rec motive
    (fun items => ∀ item ∈ items, motive item)
    (fun members => ∀ member ∈ members, motive member.2)
    (fun member => motive member.2)
    null bool number string array object (List.forall_mem_nil _) ?items (List.forall_mem_nil _)
    ?members (fun _ _ part => part) document
  case items =>
    intro first rest firstPart restParts
    exact List.forall_mem_cons.mpr ⟨firstPart, restParts⟩
  case members =>
    intro first rest firstPart restParts
    exact List.forall_mem_cons.mpr ⟨firstPart, restParts⟩

/-! ## Where a text starts and where its parts end -/

/-- A document starts neither with a blank nor with a closing bracket. -/
theorem render_eq_cons (document : Document) :
    ∃ c tail, document.render = c :: tail ∧ isBlank c = false ∧ c ≠ ']' := by
  cases document with
  | null => exact ⟨'n', _, rfl, rfl, by decide⟩
  | bool value =>
      cases value with
      | false => exact ⟨'f', _, rfl, rfl, by decide⟩
      | true => exact ⟨'t', _, rfl, rfl, by decide⟩
  | number text =>
      rcases text.render_eq_cons with ⟨c, tail, shown, noBlank, noMark⟩
      exact ⟨c, tail, shown, noBlank, noMark ']' (by decide)⟩
  | string text => exact ⟨'"', _, rfl, rfl, by decide⟩
  | array items => exact ⟨'[', _, rfl, rfl, by decide⟩
  | object members => exact ⟨'\x7b', _, rfl, rfl, by decide⟩

/-- No blank stands in front of a document. -/
theorem dropBlanks_render_append (document : Document) (rest : List Char) :
    dropBlanks (document.render ++ rest) = document.render ++ rest := by
  rcases document.render_eq_cons with ⟨c, tail, shown, noBlank, _⟩
  rw [shown, List.cons_append, dropBlanks_cons noBlank]

/-- What follows the first of some parts, up to the closing bracket and on. -/
def partsTail (parts : List (List Char)) (closing : Char) (rest : List Char) : List Char :=
  parts.flatMap (',' :: ·) ++ closing :: rest

theorem intercalate_cons (first : List Char) (others : List (List Char)) :
    [','].intercalate (first :: others) = first ++ others.flatMap (',' :: ·) := by
  induction others generalizing first with
  | nil => simp
  | cons second others ih =>
      rw [List.intercalate_cons_cons, ih, List.flatMap_cons, List.append_assoc,
        List.singleton_append, List.cons_append]

theorem renderParts_cons_append
    (opening closing : Char)
    (first : List Char)
    (others : List (List Char))
    (rest : List Char) :
    renderParts opening closing (first :: others) ++ rest =
      opening :: (first ++ partsTail others closing rest) := by
  rw [renderParts, intercalate_cons, partsTail]
  simp only [List.cons_append, List.append_assoc, List.nil_append]

theorem partsTail_cons
    (first : List Char)
    (others : List (List Char))
    (closing : Char)
    (rest : List Char) :
    partsTail (first :: others) closing rest = ',' :: (first ++ partsTail others closing rest) := by
  rw [partsTail, partsTail, List.flatMap_cons, List.cons_append, List.cons_append,
    List.append_assoc]

/-- A number ends where the next part or the closing bracket follows. -/
theorem endsNumber_partsTail
    (parts : List (List Char))
    {closing : Char}
    (closes : closing = ']' ∨ closing = '\x7d')
    (rest : List Char) :
    EndsNumber (partsTail parts closing rest) := by
  cases parts with
  | nil => exact Value.endsNumber_cons (Or.inr closes) rest
  | cons first others =>
      rw [partsTail_cons]
      exact Value.endsNumber_cons (Or.inl rfl) _

end Document

end ReviewQuery.Json
