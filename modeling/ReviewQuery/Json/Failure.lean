import ReviewQuery.Json.Number
import ReviewQuery.Text.Octets
import ReviewQuery.Text.Quoted

/-!
# What can be wrong with a JSON text

Reading stops at the first fault.  A `Failure` names the fault and the number of octets that were
left at that moment; `Failure.locate` turns that number into a line and a column of the whole text.
-/

namespace ReviewQuery.Json

/-! ## Faults -/

/-- What stands in the text where a value of some kind was expected. -/
inductive Found where
  | null
  | bool (value : Bool)
  | number (value : Number)
  | string (value : String)
  | array
  | object

/-- How a found value is named in a message. -/
def Found.describe : Found → String
  | .null => "null"
  | .bool value => "boolean `" ++ (if value then "true" else "false") ++ "`"
  | .number (.integer value) =>
    "integer `" ++ String.ofList (Number.renderInteger value) ++ "`"
  | .number (.double value) =>
    "floating point `" ++ String.ofList (Number.renderDouble value) ++ "`"
  | .string value => "string " ++ Text.Quoted.render value
  | .array => "sequence"
  | .object => "map"

/-- A fault of a JSON text, or of a document that does not have the expected shape. -/
inductive Reason where
  | unfinishedArray
  | unfinishedObject
  | unfinishedString
  | unfinishedValue
  | expectedColon
  | expectedCommaOrBracket
  | expectedCommaOrBrace
  | expectedWord
  | expectedValue
  | expectedKey
  | invalidEscape
  | invalidNumber
  | numberOutOfRange
  | controlCharacter
  | unpairedSurrogate
  | missingSurrogate
  | trailingComma
  | trailingCharacters
  | tooDeep
  | wrongType (found : Found) (expected : String)
  | wrongLength (length : Nat) (expected : String)
  | missingMember (name : String)
  | repeatedMember (name : String)

/-- The wording of a fault. -/
def Reason.message : Reason → String
  | .unfinishedArray => "EOF while parsing a list"
  | .unfinishedObject => "EOF while parsing an object"
  | .unfinishedString => "EOF while parsing a string"
  | .unfinishedValue => "EOF while parsing a value"
  | .expectedColon => "expected `:`"
  | .expectedCommaOrBracket => "expected `,` or `]`"
  | .expectedCommaOrBrace => "expected `,` or `\x7d`"
  | .expectedWord => "expected ident"
  | .expectedValue => "expected value"
  | .expectedKey => "key must be a string"
  | .invalidEscape => "invalid escape"
  | .invalidNumber => "invalid number"
  | .numberOutOfRange => "number out of range"
  | .controlCharacter =>
    "control character (\\u0000-\\u001F) found while parsing a string"
  | .unpairedSurrogate => "lone leading surrogate in hex escape"
  | .missingSurrogate => "unexpected end of hex escape"
  | .trailingComma => "trailing comma"
  | .trailingCharacters => "trailing characters"
  | .tooDeep => "recursion limit exceeded"
  | .wrongType found expected =>
    "invalid type: " ++ found.describe ++ ", expected " ++ expected
  | .wrongLength length expected =>
    "invalid length " ++ toString length ++ ", expected " ++ expected
  | .missingMember name => "missing field `" ++ name ++ "`"
  | .repeatedMember name => "duplicate field `" ++ name ++ "`"

/-! ## Faults with their place -/

/-- A fault and the number of octets that had not been read when it was found. -/
structure Failure where
  reason : Reason
  remaining : Nat

namespace Failure

/-- A fault found once everything before `rest` has been read. -/
def before (reason : Reason) (rest : List Char) : Failure :=
  ⟨reason, Text.Utf8.size rest⟩

/-- A fault that shows in the next octet of `rest`, or at the end of the text. -/
def atNext (reason : Reason) (rest : List Char) : Failure :=
  ⟨reason, Text.Utf8.size rest - 1⟩

end Failure

/-- A fault with its place in the text. -/
structure DecodeError where
  reason : Reason
  position : Text.Position

namespace DecodeError

/-- The wording of the fault and its place. -/
def message (e : DecodeError) : String :=
  e.reason.message ++ " at line " ++ toString e.position.line ++
    " column " ++ toString e.position.column

end DecodeError

/-- The fault with its place in the whole text. -/
def Failure.locate (text : List Char) (failure : Failure) : DecodeError :=
  ⟨failure.reason, Text.Position.after text (Text.Utf8.size text - failure.remaining)⟩

end ReviewQuery.Json
