import ReviewQuery.Proofs.Text.PrefixFree
import ReviewQuery.Text.Outline

/-!
# Layouts of an outline

The layout with one part to a line puts as many blanks at the start of a line as its level asks for.
Another way to the same text knows no levels: it writes every part as if it stood alone and then
puts four blanks in front of each of its lines.  That would also move the lines inside a name or a
leaf, so the two agree for outlines in which no line ends there.

A value that is absent is shown by a name of its own and a value that is there by a tuple around it.
Both layouts stay prefix-free if the layout of the value is.
-/

namespace ReviewQuery.Text.Outline

/-! ## Indented lines -/

/-- A text with four blanks in front of each of its lines; the first line has started already unless
`starts` is set. -/
def indentLines (starts : Bool) : List Char → List Char
  | [] => []
  | c :: rest =>
    (if starts then (indent 1).toList else []) ++ c :: indentLines (c = '\n') rest

mutual

/-- The outline with one part to a line, in which every part is indented as a whole. -/
def nested : Outline → List Char
  | .leaf text => text.toList
  | .record name fields => name.toList ++ " \x7b\n".toList ++ nestedFields fields ++ ['\x7d']
  | .tuple name items => name.toList ++ "(\n".toList ++ nestedItems items ++ [')']
  | .list [] => "[]".toList
  | .list items => "[\n".toList ++ nestedItems items ++ [']']

/-- Named parts, each on lines of its own and closed by a comma. -/
def nestedFields : List (String × Outline) → List Char
  | [] => []
  | (name, part) :: rest =>
    indentLines true (name.toList ++ ": ".toList ++ nested part ++ ",\n".toList) ++
      nestedFields rest

/-- Parts, each on lines of its own and closed by a comma. -/
def nestedItems : List Outline → List Char
  | [] => []
  | part :: rest => indentLines true (nested part ++ ",\n".toList) ++ nestedItems rest

end

/-- Whether no line ends within a name or a leaf. -/
inductive BreaksNoLine : Outline → Prop
  | leaf {text : String} (inside : '\n' ∉ text.toList) : BreaksNoLine (.leaf text)
  | record
      {name : String}
      {fields : List (String × Outline)}
      (title : '\n' ∉ name.toList)
      (labels : ∀ field ∈ fields, '\n' ∉ field.1.toList)
      (parts : ∀ field ∈ fields, BreaksNoLine field.2) :
      BreaksNoLine (.record name fields)
  | tuple
      {name : String}
      {items : List Outline}
      (title : '\n' ∉ name.toList)
      (parts : ∀ item ∈ items, BreaksNoLine item) :
      BreaksNoLine (.tuple name items)
  | list
      {items : List Outline}
      (parts : ∀ item ∈ items, BreaksNoLine item) :
      BreaksNoLine (.list items)

/-! ## Indenting texts one after another -/

theorem indentLines_true {text : List Char} (nonempty : text ≠ []) :
    indentLines true text = (indent 1).toList ++ indentLines false text := by
  cases text with
  | nil => exact absurd rfl nonempty
  | cons c rest => simp [indentLines]

theorem indentLines_append {text : List Char} (inside : '\n' ∉ text) (rest : List Char) :
    indentLines false (text ++ rest) = text ++ indentLines false rest := by
  induction text with
  | nil => rfl
  | cons c text ih =>
      rw [List.mem_cons, not_or] at inside
      have noBreak : decide (c = '\n') = false := decide_eq_false (Ne.symm inside.1)
      simp [indentLines, noBreak, ih inside.2]

theorem indentLines_break (rest : List Char) :
    indentLines false ('\n' :: rest) = '\n' :: indentLines true rest :=
  rfl

theorem newline_not_mem_indent (level : Nat) : '\n' ∉ (indent level).toList := by
  simp [indent]

theorem indent_succ (level : Nat) :
    (indent (level + 1)).toList = (indent 1).toList ++ (indent level).toList := by
  simp only [indent, String.toList_ofList, List.replicate_append_replicate]
  congr 1
  omega

/-! ## One level more -/

/-- Whether indenting all lines of a part but the first puts it one level deeper, whatever follows
it. -/
def Shifts (outline : Outline) : Prop :=
  ∀ (level : Nat) (rest : List Char),
    indentLines false ((outline.spread level).toList ++ rest) =
      (outline.spread (level + 1)).toList ++ indentLines false rest

theorem indentLines_spreadFields
    {fields : List (String × Outline)}
    (labels : ∀ field ∈ fields, '\n' ∉ field.1.toList)
    (parts : ∀ field ∈ fields, field.2.Shifts)
    (level : Nat)
    (rest : List Char) :
    indentLines true ((spreadFields level fields).toList ++ rest) =
      (spreadFields (level + 1) fields).toList ++ indentLines true rest := by
  induction fields with
  | nil => simp [spreadFields]
  | cons field fields ih =>
      rw [List.forall_mem_cons] at labels parts
      rw [indentLines_true (by simp [spreadFields])]
      simp only [spreadFields, String.toList_append, List.append_assoc, indent_succ level]
      rw [indentLines_append (newline_not_mem_indent level), indentLines_append labels.1,
        indentLines_append (by decide), parts.1, ← ih labels.2 parts.2]
      rfl

theorem indentLines_spreadItems
    {items : List Outline}
    (parts : ∀ item ∈ items, item.Shifts)
    (level : Nat)
    (rest : List Char) :
    indentLines true ((spreadItems level items).toList ++ rest) =
      (spreadItems (level + 1) items).toList ++ indentLines true rest := by
  induction items with
  | nil => simp [spreadItems]
  | cons item items ih =>
      rw [List.forall_mem_cons] at parts
      rw [indentLines_true (by simp [spreadItems])]
      simp only [spreadItems, String.toList_append, List.append_assoc, indent_succ level]
      rw [indentLines_append (newline_not_mem_indent level), parts.1, ← ih parts.2]
      rfl

/-- Parts between an opening line and a closing mark are shifted together with the mark. -/
theorem indentLines_block
    {opening parts shifted : List Char}
    {mark : Char}
    (inside : '\n' ∉ opening)
    (shifts : ∀ rest, indentLines true (parts ++ rest) = shifted ++ indentLines true rest)
    (notBreak : mark ≠ '\n')
    (level : Nat)
    (rest : List Char) :
    indentLines false (opening ++ '\n' :: (parts ++ ((indent level).toList ++ mark :: rest))) =
      opening ++ '\n' :: (shifted ++ ((indent (level + 1)).toList ++
        mark :: indentLines false rest)) := by
  have closes : indentLines false (mark :: rest) = mark :: indentLines false rest := by
    simp [indentLines, notBreak]
  rw [indentLines_append inside, indentLines_break, shifts, indentLines_true (by simp),
    indentLines_append (newline_not_mem_indent level), closes, indent_succ level,
    List.append_assoc]

/-- In the layout with one part to a line a part is shifted as a whole. -/
theorem BreaksNoLine.shifts {outline : Outline} (plain : outline.BreaksNoLine) :
    outline.Shifts := by
  induction plain with
  | leaf inside =>
      intro level rest
      exact indentLines_append inside rest
  | @record name fields title labels parts ih =>
      intro level rest
      have opens : '\n' ∉ name.toList ++ [' ', '\x7b'] := by simp [title]
      simpa [spread] using
        indentLines_block opens (indentLines_spreadFields labels ih (level + 1))
          (show '\x7d' ≠ '\n' by decide) level rest
  | @tuple name items title parts ih =>
      intro level rest
      have opens : '\n' ∉ name.toList ++ ['('] := by simp [title]
      simpa [spread] using
        indentLines_block opens (indentLines_spreadItems ih (level + 1))
          (show ')' ≠ '\n' by decide) level rest
  | @list items parts ih =>
      intro level rest
      cases items with
      | nil => simp [spread, indentLines]
      | cons item items =>
          simpa [spread] using
            indentLines_block (show '\n' ∉ ['['] by decide)
              (indentLines_spreadItems ih (level + 1)) (show ']' ≠ '\n' by decide) level rest

/-! ## Both ways to the same text -/

theorem nestedFields_eq
    {fields : List (String × Outline)}
    (labels : ∀ field ∈ fields, '\n' ∉ field.1.toList)
    (parts : ∀ field ∈ fields, field.2.Shifts)
    (alone : ∀ field ∈ fields, field.2.nested = (field.2.spread 0).toList) :
    nestedFields fields = (spreadFields 1 fields).toList := by
  induction fields with
  | nil => rfl
  | cons field fields ih =>
      rw [List.forall_mem_cons] at labels parts alone
      rw [nestedFields, ih labels.2 parts.2 alone.2, alone.1, indentLines_true (by simp)]
      simp only [spreadFields, String.toList_append, List.append_assoc]
      rw [indentLines_append labels.1, indentLines_append (by decide), parts.1]
      simp [indentLines]

theorem nestedItems_eq
    {items : List Outline}
    (parts : ∀ item ∈ items, item.Shifts)
    (alone : ∀ item ∈ items, item.nested = (item.spread 0).toList) :
    nestedItems items = (spreadItems 1 items).toList := by
  induction items with
  | nil => rfl
  | cons item items ih =>
      rw [List.forall_mem_cons] at parts alone
      rw [nestedItems, ih parts.2 alone.2, alone.1, indentLines_true (by simp), parts.1]
      simp [spreadItems, indentLines]

/-- Where no line ends within a name or a leaf, indenting parts as a whole gives the layout with one
part to a line. -/
theorem BreaksNoLine.nested_eq {outline : Outline} (plain : outline.BreaksNoLine) :
    outline.nested = (outline.spread 0).toList := by
  induction plain with
  | leaf inside => rfl
  | record title labels parts ih =>
      rw [nested, nestedFields_eq labels (fun field member => (parts field member).shifts) ih]
      simp [spread, indent]
  | tuple title parts ih =>
      rw [nested, nestedItems_eq (fun item member => (parts item member).shifts) ih]
      simp [spread, indent]
  | @list items parts ih =>
      cases items with
      | nil => rfl
      | cons item items =>
          rw [nested, nestedItems_eq (fun item member => (parts item member).shifts) ih]
          · simp [spread, indent]
          · exact List.cons_ne_nil item items

/-! ## Values that may be absent -/

section Option

variable
  {α : Type}
  {outline : α → Outline}

/-- In any layout the name and the tuple start with different characters, so absence is seen at
once. -/
theorem isPrefixFree_ofOption
    (layout part : Outline → List Char)
    (before after : List Char)
    (absent : layout (.leaf "None") = "None".toList)
    (present : ∀ item, layout (.tuple "Some" [item]) = 'S' :: (before ++ (part item ++ after)))
    (prefixFree : IsPrefixFree fun value => part (outline value)) :
    IsPrefixFree fun value => layout (ofOption outline value) := by
  intro left right rest rest' same
  cases left with
  | none =>
      cases right with
      | none => exact ⟨rfl, List.append_cancel_left same⟩
      | some value =>
          simp only [ofOption, absent, present] at same
          cases same
  | some value =>
      cases right with
      | none =>
          simp only [ofOption, absent, present] at same
          cases same
      | some value' =>
          simp only [ofOption, present, List.cons_append, List.cons.injEq, true_and,
            List.append_assoc, List.append_cancel_left_eq] at same
          rcases prefixFree same with ⟨rfl, behind⟩
          exact ⟨rfl, List.append_cancel_left behind⟩

theorem isPrefixFree_compact_ofOption
    (prefixFree : IsPrefixFree fun value => (outline value).compact.toList) :
    IsPrefixFree fun value => (ofOption outline value).compact.toList := by
  refine isPrefixFree_ofOption (fun item => item.compact.toList) (fun item => item.compact.toList)
    "ome(".toList ")".toList rfl (fun item => ?_) prefixFree
  simp [compact, compactItems]

theorem isPrefixFree_spread_ofOption
    (level : Nat)
    (prefixFree : IsPrefixFree fun value => ((outline value).spread (level + 1)).toList) :
    IsPrefixFree fun value => ((ofOption outline value).spread level).toList := by
  refine isPrefixFree_ofOption (fun item => (item.spread level).toList)
    (fun item => (item.spread (level + 1)).toList) ("ome(\n".toList ++ (indent (level + 1)).toList)
    (",\n".toList ++ (indent level).toList ++ ")".toList) ?_ (fun item => ?_) prefixFree
  · simp [spread]
  · simp [spread, spreadItems]

end Option

end ReviewQuery.Text.Outline
