import ReviewQuery.Proofs.Client.Basic
import ReviewQuery.Proofs.Client.Call
import ReviewQuery.Proofs.Text.Utf8

/-!
# What a failure status makes of a call

A status of four or five hundred says by itself how a call fails.  The transport of the web reads
the whole body before anyone looks at the status, though, so the status decides only if the body is
text.  Behind any other body the status is lost, and the call fails as if there were no answer.
-/

namespace ReviewQuery

/-! ## Bodies that are text and bodies that are not -/

namespace Http

/-- Whether octets are the UTF-8 of some text. -/
def IsText (octets : Octets) : Prop :=
  ∃ text : List Char, octets = Text.Utf8.encode text

section Arrival

variable
  {octets rest body : Octets}
  {head : Head}

/-- Whatever its status is, a response whose head arrives is read to the end. -/
theorem Completion.reply_ofOctets (headRead : Head.read octets = .ok (head, rest)) :
    (Completion.ofOctets octets).reply = (Arrival.mk head rest).toResponse := by
  rw [Completion.ofOctets, headRead]
  dsimp only
  split <;> rfl

theorem Arrival.readBody_eq (bodyRead : head.framing.read rest = .ok body) :
    (Arrival.mk head rest).readBody =
      match Text.Utf8.decode body with
      | some text => .ok (String.ofList text)
      | none => .error .bodyNotText := by
  show (head.framing.read rest >>= _) = _
  rw [bodyRead]
  rfl

/-- A body of text makes a response. -/
theorem Arrival.toResponse_of_text
    (bodyRead : head.framing.read rest = .ok body)
    {text : List Char}
    (isText : body = Text.Utf8.encode text) :
    (Arrival.mk head rest).toResponse =
      .ok ⟨head.status.code, head.status.render, String.ofList text⟩ := by
  rw [toResponse, readBody_eq bodyRead, isText, Text.Utf8.decode_encode]

/-- Any other body is a fault, whatever the head says. -/
theorem Arrival.toResponse_of_not_isText
    (bodyRead : head.framing.read rest = .ok body)
    (notText : ¬ IsText body) :
    (Arrival.mk head rest).toResponse =
      .error "failed to read response body: stream did not contain valid UTF-8" := by
  have unreadable : Text.Utf8.decode body = none := by
    rw [Option.eq_none_iff_forall_not_mem]
    intro text read
    exact notText ⟨text, Text.Utf8.decode_eq_some_iff.mp read⟩
  rw [toResponse, readBody_eq bodyRead, unreadable]
  rfl

end Arrival

end Http

/-! ## The error of a status -/

namespace Client

/-- The error that a failure status stands for. -/
def statusError (client : Client) (url : String) : Nat → Error
  | 400 => .badQuery url
  | 401 => .unauthorized client.base
  | 404 => .notFound client.base
  | status => .badStatus client.base status

theorem kind_statusError_eq (client : Client) (url : String) (status : Nat) :
    (client.statusError url status).kind = if status = 400 then .query else .connection := by
  unfold statusError
  split
  · rfl
  · rfl
  · rfl
  · rename_i notBad _ _
    rw [if_neg notBad]
    rfl

/-- Only a refused query is the fault of the query. -/
theorem kind_statusError (client : Client) (url : String) (status : Nat) :
    (client.statusError url status).kind = .query ↔ status = 400 := by
  rw [kind_statusError_eq]
  constructor
  · intro isQuery
    by_cases isBad : status = 400
    · exact isBad
    · rw [if_neg isBad] at isQuery
      cases isQuery
  · intro isBad
    rw [if_pos isBad]

theorem statusError_ne_transport (client : Client) (url : String) (status : Nat) (reason : String) :
    client.statusError url status ≠ .transport reason := by
  unfold statusError
  split <;> exact Error.noConfusion

/-- A response with any other status than 200 is not read any further. -/
theorem readResponse_of_failure
    (client : Client)
    (url : String)
    {response : Http.Response}
    (failure : response.status ≠ 200) :
    client.readResponse url response = .error (client.statusError url response.status) := by
  have refused :
      client.verdictError? url (.ofStatus response.status) =
        some (client.statusError url response.status) := by
    unfold statusError
    split
    · rename_i status
      rw [status]
      rfl
    · rename_i status
      rw [status]
      rfl
    · rename_i status
      rw [status]
      rfl
    · rename_i notBad notUnauthorized notMissing
      rw [Verdict.ofStatus, if_neg failure, if_neg notBad, if_neg notUnauthorized,
        if_neg notMissing]
      rfl
  rw [readResponse, refused]

/-! ## Calls over the web -/

section Wire

variable
  (client : Client)
  (call : Call)
  (query : String)
  {octets rest body : Http.Octets}
  {head : Http.Head}

/-- Behind a body of text a failure status decides the error. -/
theorem result_call_of_isText
    (headRead : Http.Head.read octets = .ok (head, rest))
    (bodyRead : head.framing.read rest = .ok body)
    (failure : 400 ≤ head.status.code)
    (isText : Http.IsText body) :
    (client.call (.wire octets) call query).result =
      .error (client.statusError (client.address query call.options) head.status.code) := by
  rcases isText with ⟨text, encoded⟩
  have replied :
      (Transport.wire octets (client.address query call.options) client.config.credential).reply =
        .ok ⟨head.status.code, head.status.render, String.ofList text⟩ :=
    (Http.Completion.reply_ofOctets headRead).trans
      (Http.Arrival.toResponse_of_text bodyRead encoded)
  have notAccepted : head.status.code ≠ 200 := by omega
  rw [result_call_of_response replied, readResponse_of_failure _ _ notAccepted]
  rfl

/-- Behind any other body every status is lost. -/
theorem result_call_of_not_isText
    (headRead : Http.Head.read octets = .ok (head, rest))
    (bodyRead : head.framing.read rest = .ok body)
    (notText : ¬ Http.IsText body) :
    (client.call (.wire octets) call query).result =
      .error (.transport
        "failed to read response body: stream did not contain valid UTF-8") :=
  result_call_of_fault
    ((Http.Completion.reply_ofOctets headRead).trans
      (Http.Arrival.toResponse_of_not_isText bodyRead notText))

end Wire

end Client

/-! ## A page of one octet -/

/-- What a server sends for a missing page, of which only the first octet counts. -/
def missingPage (page : String) : Http.Octets :=
  Text.Utf8.ofString ("HTTP/1.1 404 Not Found\r\nContent-Length: 1\r\n\r\n" ++ page)

/-- The head of a missing page. -/
def missingHead : Http.Head :=
  ⟨⟨"HTTP/1.1".toList, 404, "Not Found".toList⟩, [⟨"Content-Length".toList, [0x20, 0x31]⟩]⟩

theorem read_whole_page :
    Http.Head.read (missingPage "o") = .ok (missingHead, [0x6F]) ∧
      missingHead.framing.read [0x6F] = .ok [0x6F] :=
  ⟨eq_ok_of_toOption (by decide +kernel), rfl⟩

theorem read_broken_page :
    Http.Head.read (missingPage "é") = .ok (missingHead, [0xC3, 0xA9]) ∧
      missingHead.framing.read [0xC3, 0xA9] = .ok [0xC3] :=
  ⟨eq_ok_of_toOption (by decide +kernel), rfl⟩

/-! ## The answers -/

/--
A failure status decides how a call over the web fails exactly when the body is text: the error is
the one of the status, which is the fault of the query only for status 400 and never a missing
answer.  Behind a body that is no text the call fails as if there were no answer.
-/
theorem call_result_of_failure_status
    (client : Client)
    (call : Call)
    (query : String)
    {octets rest body : Http.Octets}
    {head : Http.Head}
    (headRead : Http.Head.read octets = .ok (head, rest))
    (bodyRead : head.framing.read rest = .ok body)
    (failure : 400 ≤ head.status.code ∧ head.status.code ≤ 599) :
    ((∃ e,
        (client.call (.wire octets) call query).result = .error e ∧
        e = client.statusError (client.address query call.options) head.status.code ∧
        (e.kind = .query ↔ head.status.code = 400) ∧
        ∀ reason, e ≠ .transport reason) ↔
      Http.IsText body) ∧
    (¬ Http.IsText body →
      (client.call (.wire octets) call query).result =
        .error (.transport
          "failed to read response body: stream did not contain valid UTF-8")) := by
  have lost := client.result_call_of_not_isText call query headRead bodyRead
  refine ⟨⟨?_, ?_⟩, lost⟩
  · rintro ⟨e, failed, _, _, notTransport⟩
    by_cases isText : Http.IsText body
    · exact isText
    · rw [lost isText] at failed
      exact absurd (Except.error.inj failed).symm (notTransport _)
  · intro isText
    refine ⟨_, client.result_call_of_isText call query headRead bodyRead failure.1 isText, rfl,
      Client.kind_statusError _ _ _, ?_⟩
    exact Client.statusError_ne_transport _ _ _

/-- A page of one letter. -/
theorem call_result_of_whole_page :
    (Client.webClient.call (.wire (missingPage "o")) .query "x").result =
      .error (.notFound "http://h") := by
  have classified :=
    (call_result_of_failure_status Client.webClient .query "x" read_whole_page.1 read_whole_page.2
      (by decide)).1
  rcases classified.mpr ⟨['o'], rfl⟩ with ⟨e, failed, rfl, _, _⟩
  exact failed

/-- A page that ends within a character: the status is lost, although head and body are in order. -/
theorem call_result_of_broken_page :
    Client.new Client.webClient.config = .ok Client.webClient ∧
      Http.Head.read (missingPage "é") = .ok (missingHead, [0xC3, 0xA9]) ∧
      missingHead.framing.read [0xC3, 0xA9] = .ok [0xC3] ∧
      missingHead.status.code = 404 ∧
      (Client.webClient.call (.wire (missingPage "é")) .query "x").result =
        .error (.transport
          "failed to read response body: stream did not contain valid UTF-8") ∧
      (Client.webClient.call (.wire (missingPage "é")) .query "x").result ≠
        .error (.notFound "http://h") := by
  have notText : ¬ Http.IsText [0xC3] := by
    rintro ⟨text, written⟩
    have read := Text.Utf8.decode_encode text
    rw [← written] at read
    cases read
  have lost :=
    Client.webClient.result_call_of_not_isText .query "x" read_broken_page.1 read_broken_page.2
      notText
  refine ⟨Client.webClient_accepted, read_broken_page.1, read_broken_page.2, rfl, lost, ?_⟩
  rw [lost]
  intro same
  cases same

end ReviewQuery
