import ReviewQuery.Json.Failure
import ReviewQuery.Text.Outline
import ReviewQuery.Text.Quoted
import ReviewQuery.Url.Error

/-!
# Why a query fails

The kinds of errors tell whom an error concerns: the one who wrote the query, the connection, the
answer, or the configuration.
-/

namespace ReviewQuery

/-- What an error is about. -/
inductive ErrorKind where
  /-- The server refuses the query. -/
  | query
  /-- The server cannot be reached, or refuses to answer. -/
  | connection
  /-- The answer cannot be read. -/
  | answer
  /-- The configuration cannot be used. -/
  | config
  deriving DecidableEq, Repr

/-- An error of a client. -/
inductive Error where
  /-- The server refuses the query at this address. -/
  | badQuery (url : String)
  /-- The server refuses the credential. -/
  | unauthorized (baseUrl : String)
  /-- The server does not know the endpoint. -/
  | notFound (baseUrl : String)
  /-- The server answers with some other status. -/
  | badStatus (baseUrl : String) (status : Nat)
  /-- There is no answer. -/
  | transport (reason : String)
  /-- The answer has no second line. -/
  | missingPayload
  /-- A change is no JSON object. -/
  | notAnObject (index : Nat)
  /-- The payload is no JSON array. -/
  | badPayload (reason : Json.DecodeError)
  /-- The base URL is no URL. -/
  | badUrl (reason : Url.Error)

namespace Error

/-- What an error is about. -/
def kind : Error → ErrorKind
  | .badQuery _ => .query
  | .unauthorized _ | .notFound _ | .badStatus _ _ | .transport _ => .connection
  | .missingPayload | .notAnObject _ | .badPayload _ => .answer
  | .badUrl _ => .config

/-- Whether the server refuses the query. -/
def isQueryError (e : Error) : Bool :=
  e.kind = .query

/-- Whether the connection is at fault. -/
def isConnectionError (e : Error) : Bool :=
  e.kind = .connection

/-- The wording of an error. -/
def message : Error → String
  | .badQuery url => url ++ ": Bad request (400)"
  | .unauthorized baseUrl =>
    "error connecting to \"" ++ baseUrl ++ "\": could not authenticate (401)"
  | .notFound baseUrl =>
    "error connecting to \"" ++ baseUrl ++ "\": resource not found (404)"
  | .badStatus baseUrl status =>
    "error connecting to \"" ++ baseUrl ++ "\"! (" ++ toString status ++ ")"
  | .transport reason => "HTTP GET failed: " ++ reason
  | .missingPayload => "response body has no payload line after the XSSI prefix"
  | .notAnObject index => "result element " ++ toString index ++ " is not a JSON object"
  | .badPayload reason => reason.message
  | .badUrl reason => reason.message

/-- A string between quotes, as a part of an outline. -/
def quoted (text : String) : Text.Outline :=
  .leaf (Text.Quoted.render text)

/-- The place of a fault as it is shown for diagnosis. -/
def decodeErrorText (e : Json.DecodeError) : String :=
  "Error(" ++ Text.Quoted.render e.reason.message ++ ", line: " ++ toString e.position.line ++
    ", column: " ++ toString e.position.column ++ ")"

/-- The error as it is shown for diagnosis. -/
def outline : Error → Text.Outline
  | .badQuery url => .record "Query" [("url", quoted url)]
  | .unauthorized baseUrl => .record "Unauthorized" [("base_url", quoted baseUrl)]
  | .notFound baseUrl => .record "NotFound" [("base_url", quoted baseUrl)]
  | .badStatus baseUrl status =>
    .record "Status" [("base_url", quoted baseUrl), ("status", .leaf (toString status))]
  | .transport reason => .tuple "Transport" [quoted reason]
  | .missingPayload => .leaf "MissingPayload"
  | .notAnObject index => .record "NotAnObject" [("index", .leaf (toString index))]
  | .badPayload reason => .tuple "Serialization" [.leaf (decodeErrorText reason)]
  | .badUrl reason => .tuple "InvalidUrl" [.leaf reason.label]

end Error

end ReviewQuery
