/-!
# Outlines of values

A value shown for diagnosis is a tree of named records, tuples and lists over leaf texts.  Such a
tree has two layouts: `compact`, on one line, and `spread`, with one part to a line, four blanks
for each level and a comma after each part.
-/

namespace ReviewQuery.Text

/-- The shape of a value that is shown for diagnosis. -/
inductive Outline where
  /-- A text that stands for itself. -/
  | leaf (text : String)
  /-- A name with named parts. -/
  | record (name : String) (fields : List (String × Outline))
  /-- A name with parts in order. -/
  | tuple (name : String) (items : List Outline)
  /-- Parts in order, without a name. -/
  | list (items : List Outline)

namespace Outline

/-! ## On one line -/

mutual

/-- The outline on one line. -/
def compact : Outline → String
  | .leaf text => text
  | .record name fields => name ++ " \x7b " ++ compactFields fields ++ " \x7d"
  | .tuple name items => name ++ "(" ++ compactItems items ++ ")"
  | .list items => "[" ++ compactItems items ++ "]"

/-- Named parts, separated by a comma and a blank. -/
def compactFields : List (String × Outline) → String
  | [] => ""
  | [(name, part)] => name ++ ": " ++ compact part
  | (name, part) :: rest => name ++ ": " ++ compact part ++ ", " ++ compactFields rest

/-- Parts, separated by a comma and a blank. -/
def compactItems : List Outline → String
  | [] => ""
  | [part] => compact part
  | part :: rest => compact part ++ ", " ++ compactItems rest

end

/-! ## One part to a line -/

/-- The blanks at the start of a line of some level. -/
def indent (level : Nat) : String :=
  String.ofList (List.replicate (4 * level) ' ')

mutual

/-- The outline with one part to a line; `level` is the level of the line it starts on. -/
def spread (level : Nat) : Outline → String
  | .leaf text => text
  | .record name fields =>
    name ++ " \x7b\n" ++ spreadFields (level + 1) fields ++ indent level ++ "\x7d"
  | .tuple name items => name ++ "(\n" ++ spreadItems (level + 1) items ++ indent level ++ ")"
  | .list [] => "[]"
  | .list items => "[\n" ++ spreadItems (level + 1) items ++ indent level ++ "]"

/-- Named parts, each on lines of its own and closed by a comma. -/
def spreadFields (level : Nat) : List (String × Outline) → String
  | [] => ""
  | (name, part) :: rest =>
    indent level ++ name ++ ": " ++ spread level part ++ ",\n" ++ spreadFields level rest

/-- Parts, each on lines of its own and closed by a comma. -/
def spreadItems (level : Nat) : List Outline → String
  | [] => ""
  | part :: rest => indent level ++ spread level part ++ ",\n" ++ spreadItems level rest

end

/-! ## Common shapes -/

/-- A truth value. -/
def ofBool (value : Bool) : Outline :=
  .leaf (if value then "true" else "false")

/-- A value that may be absent. -/
def ofOption {α : Type} (outline : α → Outline) : Option α → Outline
  | none => .leaf "None"
  | some value => .tuple "Some" [outline value]

end Outline

end ReviewQuery.Text
