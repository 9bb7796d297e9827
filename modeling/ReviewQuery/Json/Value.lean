import ReviewQuery.Json.Number
import ReviewQuery.Text.Hexadecimal

/-!
# JSON values and their compact text

The members of an object stay in the order in which their names first arrived.  `Value.render`
writes a value without blanks; strings escape the quote, the backslash and the controls, and keep
every other character as it is.
-/

namespace ReviewQuery.Json

/-- A decoded JSON value. -/
inductive Value where
  | null
  | bool (value : Bool)
  | number (value : Number)
  | string (text : String)
  | array (items : List Value)
  | object (members : List (String × Value))

/-- The members of an object, in the order in which their names first arrived. -/
abbrev Members : Type :=
  List (String × Value)

/-- Add a member.  A name that is already there keeps its place and takes the new value. -/
def Members.insert (name : String) (value : Value) : Members → Members
  | [] => [(name, value)]
  | (other, old) :: rest =>
    if other = name then (name, value) :: rest
    else (other, old) :: Members.insert name value rest

/-! ## Compact text -/

/-- How one character stands inside a JSON string. -/
def escapeChar (c : Char) : List Char :=
  if c = '"' then ['\\', '"']
  else if c = '\\' then ['\\', '\\']
  else if c = '\x08' then ['\\', 'b']
  else if c = '\x0c' then ['\\', 'f']
  else if c = '\n' then ['\\', 'n']
  else if c = '\r' then ['\\', 'r']
  else if c = '\t' then ['\\', 't']
  else if c.toNat < 0x20 then
    ['\\', 'u', '0', '0', Text.Hexadecimal.lower (c.toNat / 16),
      Text.Hexadecimal.lower (c.toNat % 16)]
  else [c]

/-- A string between quotes. -/
def renderString (text : String) : List Char :=
  '"' :: text.toList.flatMap escapeChar ++ ['"']

namespace Value

mutual

/-- The compact text of a value. -/
def render : Value → List Char
  | .null => ['n', 'u', 'l', 'l']
  | .bool true => ['t', 'r', 'u', 'e']
  | .bool false => ['f', 'a', 'l', 's', 'e']
  | .number n => n.render
  | .string text => renderString text
  | .array items => '[' :: renderItems items ++ [']']
  | .object members => '\x7b' :: renderMembers members ++ ['\x7d']

/-- Items separated by commas. -/
def renderItems : List Value → List Char
  | [] => []
  | [item] => render item
  | item :: rest => render item ++ ',' :: renderItems rest

/-- Members separated by commas. -/
def renderMembers : List (String × Value) → List Char
  | [] => []
  | [(name, item)] => renderString name ++ ':' :: render item
  | (name, item) :: rest =>
    renderString name ++ ':' :: render item ++ ',' :: renderMembers rest

end

/-- The compact text of a value as a string. -/
def text (value : Value) : String :=
  String.ofList value.render

end Value

end ReviewQuery.Json
