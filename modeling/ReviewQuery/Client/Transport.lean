import ReviewQuery.Config.Basic
import ReviewQuery.Http.Response
import ReviewQuery.Text.Octets
import ReviewQuery.Url.Parse

/-!
# Transports

A transport takes an address and a credential to a server and brings back a response or the reason
why there is none.  Besides the reply an exchange records what was sent.  `scripted` stands for any
transport that gives a known reply.  `wire` is the transport of the web with a server in place of
the network, which answers with the same octets whatever the address is.  `offline` is that
transport without a network: nothing is sent, and the reply is the reason why no connection is made.
-/

namespace ReviewQuery

/-- What came of sending a request: the reply, and the record of what was sent. -/
structure Exchange (σ : Type) where
  reply : Except String Http.Response
  sent : List σ

/-- A way to send requests. -/
abbrev Transport (σ : Type) : Type :=
  String → Credential → Exchange σ

/-! ## Known replies -/

/-- A request as a transport is asked for it. -/
structure Request where
  url : String
  credential : Credential
  deriving DecidableEq, Repr

/-- The transport that answers every request with one reply. -/
def Transport.scripted (reply : Except String Http.Response) : Transport Request :=
  fun url credential => ⟨reply, [⟨url, credential⟩]⟩

/-! ## The web -/

/-- A request as it is sent to a server. -/
structure WireRequest where
  method : String
  url : String
  authorization : String
  deriving DecidableEq, Repr

/-- The header that carries a credential. -/
def Credential.authorization (credential : Credential) : String :=
  let pair := credential.username ++ ":" ++ credential.password
  "Basic " ++ String.ofList (Text.Base64.encode (Text.Utf8.ofString pair))

/-- The transport of the web, for a server that answers every request with some octets. -/
def Transport.wire (octets : Http.Octets) : Transport WireRequest :=
  fun address credential =>
    { reply := (Http.Completion.ofOctets octets).reply
      sent := [⟨"GET", address, credential.authorization⟩] }

/-! ## Requests that are refused -/

/-- The URL of an address, which has to name a host. -/
def requestUrl (address : String) : Except Http.Fault Url :=
  match Url.parse address.toList with
  | .error reason => .error (.badAddress reason)
  | .ok url => if url.host.isNone then .error (.badAddress .emptyHost) else .ok url

/-- The number of seconds that a clock can show, which is `2 ^ 63`. -/
def clockLimit : Nat := 9223372036854775808

/-- The seconds that a request may take, unless something else is chosen. -/
def standardTimeout : Nat := 30

/-- Why no connection is made for an address, if that is so: the time limit, the address, or its
scheme. -/
def refusal? (timeout : Nat) (address : String) : Option Http.Fault :=
  if clockLimit ≤ timeout + 1 then some .endlessTime
  else
    match requestUrl address with
    | .error fault => some fault
    | .ok url =>
      if url.scheme = "http".toList || url.scheme = "https".toList then none
      else
        some (.unknownScheme (String.ofList url.render) (String.ofList url.scheme))

/-- The transport of the web without a network, with a time limit in seconds. -/
def Transport.offline (timeout : Nat) : Transport WireRequest :=
  fun address _ =>
    { reply := (Http.Completion.unanswered ((refusal? timeout address).getD .noConnection)).reply
      sent := [] }

end ReviewQuery
