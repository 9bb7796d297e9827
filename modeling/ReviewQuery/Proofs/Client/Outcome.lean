import ReviewQuery.Proofs.Client.Classification

/-!
# The whole outcome of a call

A call sends one request, and what it amounts to is told by the reply: `Client.Completes` gives the
result and the log for each kind of reply.  Only a body with status 200 is read, and
`Call.Answers` says what a call makes of it.  Under every other status the body and the status line
leave no trace in the result, and the log ends in one record that names the base URL.
-/

namespace ReviewQuery

/-! ## What is expected of a call -/

/-- Whether the message of a record holds a text. -/
def LogRecord.Names (record : LogRecord) (text : String) : Prop :=
  text.toList <:+: record.message.toList

/-- The changes that a body holds. -/
def Holds (body : String) (changes : List Json.Value) : Prop :=
  ∃ payload, Query.payload? body = some payload ∧ Json.decodeItems payload = .ok changes

/-- What a call makes of a body. -/
inductive Call.Answers (call : Call) (body : String) : Except Error Answer → Prop where
  | missing
      (missing : Query.payload? body = none) :
      call.Answers body (.error .missingPayload)
  | unreadable
      {payload : String}
      {reason : Json.DecodeError}
      (found : Query.payload? body = some payload)
      (unread : Json.decodeItems payload = .error reason) :
      call.Answers body (.error (.badPayload reason))
  | texts
      {changes : List Json.Value}
      (texts : call.givesTexts = true)
      (holds : Holds body changes) :
      call.Answers body (.ok (.texts (changes.map Json.Value.text)))
  | objects
      {records : List Json.Members}
      (objects : call.givesTexts = false)
      (holds : Holds body (records.map Json.Value.object)) :
      call.Answers body (.ok (.objects records))
  /-- The first change that is no object, behind some that are. -/
  | stray
      {records : List Json.Members}
      {change : Json.Value}
      {rest : List Json.Value}
      (objects : call.givesTexts = false)
      (holds : Holds body (records.map Json.Value.object ++ change :: rest))
      (stray : ∀ members, change ≠ .object members) :
      call.Answers body (.error (.notAnObject records.length))

/-- What a call to an address amounts to: its reply, its result and its log. -/
inductive Client.Completes (client : Client) (call : Call) (url : String) :
    Except String Http.Response → Except Error Answer → List LogRecord → Prop where
  | unanswered
      (reason : String) :
      client.Completes call url (.error reason) (.error (.transport reason))
        [⟨.debug, "sending: " ++ url⟩]
  | accepted
      (statusLine body : String)
      {result : Except Error Answer}
      (answers : call.Answers body result) :
      client.Completes call url (.ok ⟨200, statusLine, body⟩) result
        [⟨.debug, "sending: " ++ url⟩, ⟨.debug, "Status received: " ++ statusLine⟩,
          ⟨.trace, "Body received: " ++ body⟩]
  | failed
      {status : Nat}
      (statusLine body : String)
      {record : LogRecord}
      (failure : status ≠ 200)
      (level : record.level = .error)
      (names : record.Names client.base) :
      client.Completes call url (.ok ⟨status, statusLine, body⟩)
        (.error (client.statusError url status))
        [⟨.debug, "sending: " ++ url⟩, ⟨.debug, "Status received: " ++ statusLine⟩, record]

theorem LogRecord.Names.of_message
    {record : LogRecord}
    {text : String}
    (front back : String)
    (message : record.message = front ++ text ++ back) :
    record.Names text := by
  refine ⟨front.toList, back.toList, ?_⟩
  rw [message, String.toList_append, String.toList_append]

/-- What a failed call is about, by the status of its response. -/
def ErrorKind.ofStatus (status : Nat) : ErrorKind :=
  if status = 200 then .answer
  else if status = 400 then .query
  else .connection

/-- What a failed call is about, by its reply. -/
def ErrorKind.ofReply : Except String Http.Response → ErrorKind
  | .error _ => .connection
  | .ok response => .ofStatus response.status

/-! ## Bodies -/

/-- A call makes of a body what it makes of its changes: texts of any changes, objects only up to a
change of another kind. -/
theorem Call.answers_readChanges (call : Call) (body : String) :
    call.Answers body ((readChanges body).bind call.answer) := by
  cases found : Query.payload? body with
  | none =>
      rw [readChanges_of_missing found]
      exact .missing found
  | some payload =>
      rw [readChanges_of_payload found]
      cases decoded : Json.decodeItems payload with
      | error reason => exact .unreadable found decoded
      | ok changes =>
          have holds : Holds body changes := ⟨payload, found, decoded⟩
          show call.Answers body (call.answer changes)
          cases given : call.givesTexts with
          | true =>
              rw [Call.answer_of_texts given]
              exact .texts given holds
          | false =>
              rcases objects_or_stray changes with
                ⟨records, rfl⟩ | ⟨records, change, rest, rfl, stray⟩
              · rw [Call.answer_of_records given]
                exact .objects given holds
              · rw [Call.answer_of_stray given records stray]
                exact .stray given holds stray

/-! ## Statuses -/

namespace Client

/-- The record of any other status than 200 is an error that names the base URL. -/
theorem verdictRecord_of_failure
    (client : Client)
    (body : String)
    {status : Nat}
    (failure : status ≠ 200) :
    (client.verdictRecord body (.ofStatus status)).level = .error ∧
      (client.verdictRecord body (.ofStatus status)).Names client.base := by
  rw [Verdict.ofStatus, if_neg failure]
  split_ifs
  · refine ⟨rfl, .of_message "" ": Bad request (400)" ?_⟩
    rw [String.empty_append]
    rfl
  · exact ⟨rfl, .of_message "Unable to authenticate to \"" "\"" rfl⟩
  · exact ⟨rfl, .of_message "\"" "\": Could not be found! (404)" rfl⟩
  · refine ⟨rfl, .of_message "Error connecting to \"" ("\"! (" ++ toString status ++ ")") ?_⟩
    simp only [verdictRecord, String.append_assoc]

/-- What a call over any transport amounts to, by the reply that it gets.  The status alone decides
whether the body of a response is read at all. -/
theorem completes_call
    {σ : Type}
    (client : Client)
    (transport : Transport σ)
    (call : Call)
    (query : String) :
    client.Completes call (client.address query call.options)
      (transport (client.address query call.options) client.config.credential).reply
      (client.call transport call query).result
      (client.call transport call query).log := by
  cases replied :
    (transport (client.address query call.options) client.config.credential).reply with
  | error reason =>
      rw [result_call_of_fault replied, log_call_of_fault replied]
      exact .unanswered reason
  | ok response =>
      rcases response with ⟨status, statusLine, body⟩
      rw [log_call_of_response replied]
      by_cases accepted : status = 200
      · subst accepted
        rw [result_call_of_accepted call replied]
        exact .accepted statusLine body (call.answers_readChanges body)
      · rw [result_call_of_response replied, readResponse_of_failure _ _ accepted]
        rcases client.verdictRecord_of_failure body accepted with ⟨level, names⟩
        exact .failed statusLine body accepted level names

/-- The reply tells what a failed call is about. -/
theorem Completes.kind_eq
    {client : Client}
    {call : Call}
    {url : String}
    {reply : Except String Http.Response}
    {e : Error}
    {log : List LogRecord}
    (completes : client.Completes call url reply (.error e) log) :
    e.kind = .ofReply reply := by
  cases completes with
  | unanswered reason => rfl
  | accepted statusLine body answers =>
      cases answers with
      | missing missing => rfl
      | unreadable found unread => rfl
      | stray objects holds stray => rfl
  | failed statusLine body failure level names =>
      rw [kind_statusError_eq, ErrorKind.ofReply, ErrorKind.ofStatus, if_neg failure]

end Client

/-! ## Calls of an accepted client -/

/--
A call of an accepted client sends one request, to the address of the query and with the credential
of the configuration.  Its result and its log are those that the reply calls for, and the reply
tells what the call is about if it fails.
-/
theorem call_completes
    {config : Config}
    {client : Client}
    (made : Client.new config = .ok client)
    (call : Call)
    (query : String)
    (reply : Except String Http.Response) :
    (client.call (.scripted reply) call query).sent =
        [⟨client.address query call.options, config.credential⟩] ∧
      client.Completes call (client.address query call.options) reply
        (client.call (.scripted reply) call query).result
        (client.call (.scripted reply) call query).log ∧
      ∀ e, (client.call (.scripted reply) call query).result = .error e →
        e.kind = .ofReply reply := by
  have completes := client.completes_call (.scripted reply) call query
  refine ⟨?_, completes, ?_⟩
  · rcases Client.new_eq_ok_iff.mp made with ⟨_, rfl⟩
    exact Client.sent_call
  · intro e failed
    rw [failed] at completes
    exact completes.kind_eq

/-- A missing page with a body that is not read, and changes of two kinds that are read as texts. -/
theorem call_completes_of_missing_page :
    let files := "http://h/a/changes/?q=x&o=CURRENT_REVISION&o=CURRENT_FILES"
    let changes := "http://h/a/changes/?q=x&o=ALL_REVISIONS&o=CURRENT_REVISION"
    let page : Http.Response := ⟨404, "HTTP/1.1 404", "<html>"⟩
    let answer : Http.Response := ⟨200, "HTTP/1.1 200 OK", ")]\x7d'\n[\x7b\"b\":1\x7d,7]"⟩
    Client.new Client.slashClient.config = .ok Client.slashClient ∧
      (Client.slashClient.call (.scripted (.ok page)) .queryFiles "x").sent =
        [⟨files, ⟨"u", "p"⟩⟩] ∧
      Client.slashClient.Completes .queryFiles files (.ok page) (.error (.notFound "http://h"))
        [⟨.debug, "sending: " ++ files⟩, ⟨.debug, "Status received: HTTP/1.1 404"⟩,
          ⟨.error, "\"http://h\": Could not be found! (404)"⟩] ∧
      (Client.slashClient.call (.scripted (.ok answer)) .queryTexts "x").sent =
        [⟨changes, ⟨"u", "p"⟩⟩] ∧
      Client.slashClient.Completes .queryTexts changes (.ok answer)
        (.ok (.texts ["\x7b\"b\":1\x7d", "7"]))
        [⟨.debug, "sending: " ++ changes⟩, ⟨.debug, "Status received: HTTP/1.1 200 OK"⟩,
          ⟨.trace, "Body received: )]\x7d'\n[\x7b\"b\":1\x7d,7]"⟩] := by
  intro files changes page answer
  have filesAddress : Client.slashClient.address "x" Call.queryFiles.options = files := by
    decide +kernel
  have changesAddress : Client.slashClient.address "x" Call.queryTexts.options = changes := by
    decide +kernel
  have read :
      readChanges ")]\x7d'\n[\x7b\"b\":1\x7d,7]" =
        .ok [.object [("b", .number (.integer 1))], .number (.integer 7)] := by
    with_unfolding_all rfl
  have texts :
      (Client.slashClient.call (.scripted (.ok answer)) .queryTexts "x").result =
        .ok (.texts ["\x7b\"b\":1\x7d", "7"]) := by
    rw [Client.result_call_of_accepted .queryTexts rfl, read]
    exact Call.answer_of_texts rfl _
  obtain ⟨sentFiles, missing, -⟩ :=
    call_completes Client.slashClient_accepted .queryFiles "x" (.ok page)
  obtain ⟨sentChanges, accepted, -⟩ :=
    call_completes Client.slashClient_accepted .queryTexts "x" (.ok answer)
  rw [Client.log_call_of_response rfl, filesAddress] at missing
  rw [filesAddress] at sentFiles
  rw [Client.log_call_of_response rfl, changesAddress, texts] at accepted
  rw [changesAddress] at sentChanges
  exact ⟨Client.slashClient_accepted, sentFiles, missing, sentChanges, accepted⟩

end ReviewQuery
