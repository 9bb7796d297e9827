import ReviewQuery.Error
import ReviewQuery.Json.Reader

/-!
# The payload of an answer

The first line of an answer guards against being run as a script and is dropped without a look.
The second line is the payload, a JSON array of changes.  Lines end with a line feed, a carriage
return, or the two together.  An answer whose first line is followed by nothing but line ends has
no payload.
-/

namespace ReviewQuery

namespace Query

/-- Whether a character ends a line. -/
def isLineEnd (c : Char) : Bool :=
  c = '\r' || c = '\n'

/-- What follows the first line end of a text, or `none` if there is no line end. -/
def behindFirstLine? (text : List Char) : Option (List Char) :=
  match text.dropWhile fun c => !isLineEnd c with
  | [] => none
  | c :: rest =>
    match c, rest with
    | '\r', '\n' :: rest => some rest
    | _, rest => some rest

/-- The second line of a body, provided that something other than line ends follows the first. -/
def payloadLine? (body : List Char) : Option (List Char) := do
  let rest ← behindFirstLine? body
  if rest.all isLineEnd then none
  else some (rest.takeWhile fun c => !isLineEnd c)

/-- The payload of an answer. -/
def payload? (body : String) : Option String :=
  (payloadLine? body.toList).map String.ofList

end Query

/-- The changes of an answer, in order. -/
def readChanges (body : String) : Except Error (List Json.Value) :=
  match Query.payload? body with
  | none => .error .missingPayload
  | some payload => (Json.decodeItems payload).mapError .badPayload

end ReviewQuery
