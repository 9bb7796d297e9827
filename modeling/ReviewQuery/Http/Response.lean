import ReviewQuery.Http.Body

/-!
# Responses

A request comes to a response, to a response whose status tells of a failure, or to no response at
all.  A reply is made of either kind of response by reading its body to the end, so that the status
is left to whoever asked.
-/

namespace ReviewQuery.Http

/-- A response to a request: the status, the status line as it is logged, and the body as text. -/
structure Response where
  status : Nat
  statusLine : String
  body : String
  deriving DecidableEq, Repr

/-! ## What arrives -/

/-- A response whose head has been read; the octets behind the head are left. -/
structure Arrival where
  head : Head
  rest : Octets

/-- What a request comes to. -/
inductive Completion where
  | success (arrival : Arrival)
  /-- The status tells of a failure. -/
  | failure (status : Nat) (arrival : Arrival)
  /-- No head of a response arrives. -/
  | unanswered (fault : Fault)

/-- The least status that tells of a failure. -/
def failureStatus : Nat := 400

/-- What a request comes to if a server answers it with some octets. -/
def Completion.ofOctets (octets : Octets) : Completion :=
  match Head.read octets with
  | .error fault => .unanswered fault
  | .ok (head, rest) =>
    if failureStatus ≤ head.status.code then .failure head.status.code ⟨head, rest⟩
    else .success ⟨head, rest⟩

/-! ## What is made of it -/

/-- The body of a response as text. -/
def Arrival.readBody (arrival : Arrival) : Except Fault String := do
  let octets ← arrival.head.framing.read arrival.rest
  match Text.Utf8.decode octets with
  | some text => pure (String.ofList text)
  | none => .error .bodyNotText

/-- The response with its whole body, or the reason why the body cannot be read. -/
def Arrival.toResponse (arrival : Arrival) : Except String Response :=
  match arrival.readBody with
  | .ok body => .ok ⟨arrival.head.status.code, arrival.head.status.render, body⟩
  | .error fault => .error ("failed to read response body: " ++ fault.message)

/-- The reply to a request.  A status of failure is no fault. -/
def Completion.reply : Completion → Except String Response
  | .success arrival => arrival.toResponse
  | .failure _ arrival => arrival.toResponse
  | .unanswered fault => .error fault.message

end ReviewQuery.Http
