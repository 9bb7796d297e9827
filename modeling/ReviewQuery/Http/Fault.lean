import ReviewQuery.Url.Error

/-!
# Why an exchange fails

A fault of an exchange that brings no response.  Faults before a connection concern the address and
the time that is left; the others concern what arrives.
-/

namespace ReviewQuery.Http

/-- A fault of an exchange. -/
inductive Fault where
  /-- The time limit lies beyond what a clock can show. -/
  | endlessTime
  /-- The address is no URL, or names no host. -/
  | badAddress (reason : Url.Error)
  /-- The address has a scheme that cannot be connected to. -/
  | unknownScheme (address scheme : String)
  /-- There is no connection. -/
  | noConnection
  /-- The response ends before a line of its head begins. -/
  | headEnds
  /-- The response ends within a line of its head. -/
  | lineEnds (line : String)
  /-- A line of the head is too long. -/
  | longLine
  /-- There are too many header fields. -/
  | manyFields
  | statusNotAscii
  | statusParts
  | statusPrefix
  | statusVersionLength
  | statusVersionFormat
  | statusCodeLength
  | statusCodeFormat (code : String)
  /-- The body is shorter than announced. -/
  | bodyEnds
  /-- The body is no text. -/
  | bodyNotText
  /-- The chunks of the body are not in order. -/
  | badChunk
  deriving DecidableEq, Repr

/-- The greatest number of octets in a line of a head. -/
def lineLimit : Nat := 102400

/-- The greatest number of header fields. -/
def fieldLimit : Nat := 100

namespace Fault

/-- The wording of a fault. -/
def message : Fault → String
  | .endlessTime => "Network Error: Request deadline overflowed"
  | .badAddress reason =>
    "Bad URL: failed to parse URL: " ++ reason.label ++ ": " ++ reason.message
  | .unknownScheme address scheme =>
    address ++ ": Unknown Scheme: unknown scheme '" ++ scheme ++ "'"
  | .noConnection => "Connection Failed"
  | .headEnds => "Network Error: Unexpected EOF"
  | .lineEnds line => "Network Error: Header field didn't end with \\n: " ++ line
  | .longLine =>
    "Network Error: header field longer than " ++ toString lineLimit ++ " bytes"
  | .manyFields =>
    "Bad Header: more than " ++ toString fieldLimit ++ " header fields in response"
  | .statusNotAscii => "Bad Status: Status line not ASCII"
  | .statusParts => "Bad Status: Wrong number of tokens in status line"
  | .statusPrefix => "Bad Status: HTTP version did not start with HTTP/"
  | .statusVersionLength => "Bad Status: HTTP version was wrong length"
  | .statusVersionFormat => "Bad Status: HTTP version did not match format"
  | .statusCodeLength => "Bad Status: Status code was wrong length"
  | .statusCodeFormat code => "Bad Status: unable to parse status as u16 (" ++ code ++ ")"
  | .bodyEnds => "response body closed before all bytes were read"
  | .bodyNotText => "stream did not contain valid UTF-8"
  | .badChunk => "Error while decoding chunks"

end Fault

end ReviewQuery.Http
