import ReviewQuery.Client.Call

/-!
# What a reply makes of a call

The result of a call is a function of the reply: a transport fault is passed on, and a response is
read by its status.  The lemmas give the result, the requests and the log apart from each other, so
that nothing else has to open a call.  What is true of the loop over the changes is proved for every
visitor.
-/

namespace ReviewQuery

namespace Client

section Call

variable
  {σ : Type}
  {client : Client}
  {transport : Transport σ}
  {call : Call}
  {query : String}

theorem result_call_of_response
    {response : Http.Response}
    (replied :
      (transport (client.address query call.options) client.config.credential).reply =
        .ok response) :
    (client.call transport call query).result =
      (client.readResponse (client.address query call.options) response).bind call.answer := by
  simp only [Client.call, Client.fetch, replied, Outcome.andThen]

theorem result_call_of_fault
    {reason : String}
    (replied :
      (transport (client.address query call.options) client.config.credential).reply =
        .error reason) :
    (client.call transport call query).result = .error (.transport reason) := by
  simp only [Client.call, Client.fetch, replied, Outcome.andThen, Except.bind]

/-- With status 200 the changes of the body are passed on. -/
theorem result_call_of_accepted
    (call : Call)
    {statusLine body : String}
    (replied :
      (transport (client.address query call.options) client.config.credential).reply =
        .ok ⟨200, statusLine, body⟩) :
    (client.call transport call query).result = (readChanges body).bind call.answer :=
  result_call_of_response replied

/-- A call sends what one exchange sends. -/
theorem sent_call :
    (client.call transport call query).sent =
      (transport (client.address query call.options) client.config.credential).sent := by
  simp only [Client.call, Client.fetch, Outcome.andThen]
  split <;> rfl

theorem log_call_of_response
    {response : Http.Response}
    (replied :
      (transport (client.address query call.options) client.config.credential).reply =
        .ok response) :
    (client.call transport call query).log =
      [⟨.debug, "sending: " ++ client.address query call.options⟩,
        ⟨.debug, "Status received: " ++ response.statusLine⟩,
        client.verdictRecord response.body (.ofStatus response.status)] := by
  simp only [Client.call, Client.fetch, replied, Outcome.andThen]

theorem log_call_of_fault
    {reason : String}
    (replied :
      (transport (client.address query call.options) client.config.credential).reply =
        .error reason) :
    (client.call transport call query).log =
      [⟨.debug, "sending: " ++ client.address query call.options⟩] := by
  simp only [Client.call, Client.fetch, replied, Outcome.andThen]

end Call

end Client

/-- The transport that answers every request with status 200 and a body. -/
def Transport.bringing (body : String) : Transport Request :=
  .scripted (.ok ⟨200, "HTTP/1.1 200 OK", body⟩)

/-! ## The changes in a body -/

theorem readChanges_of_missing {body : String} (missing : Query.payload? body = none) :
    readChanges body = .error .missingPayload := by
  rw [readChanges, missing]

theorem readChanges_of_payload
    {body payload : String}
    (found : Query.payload? body = some payload) :
    readChanges body = (Json.decodeItems payload).mapError .badPayload := by
  rw [readChanges, found]

/-! ## Visited changes -/

namespace Visitor

section Visitor

variable
  {α : Type}
  (visit : Visitor α)

/-- Behind the changes that have been visited the others are visited, with the places that they have
behind them. -/
theorem visitAll_append
    (index : Nat)
    (gathered : Array α)
    (front back : List Json.Value) :
    visit.visitAll index gathered (front ++ back) =
      (visit.visitAll index gathered front).bind fun gathered =>
        visit.visitAll (index + front.length) gathered back := by
  induction front generalizing index gathered with
  | nil => rfl
  | cons change rest ih =>
      have place : index + 1 + rest.length = index + (change :: rest).length := by
        rw [List.length_cons]
        omega
      rw [List.cons_append, visitAll, visitAll]
      cases visit index change with
      | error e => rfl
      | ok item =>
          show visit.visitAll (index + 1) (gathered.push item) (rest ++ back) = _
          rw [ih, place]

/-- If no change stops the call, then what is kept of each is gathered in order. -/
theorem visitAll_map
    {β : Type}
    (change : β → Json.Value)
    (kept : β → α)
    (keeps : ∀ index source, visit index (change source) = .ok (kept source))
    (index : Nat)
    (gathered : Array α)
    (sources : List β) :
    visit.visitAll index gathered (sources.map change) =
      .ok (gathered ++ (sources.map kept).toArray) := by
  induction sources generalizing index gathered with
  | nil => rw [List.map_nil, visitAll, List.map_nil, Array.append_empty]
  | cons source rest ih =>
      rw [List.map_cons, visitAll, keeps]
      show visit.visitAll (index + 1) (gathered.push (kept source)) (rest.map change) = _
      rw [ih, List.map_cons, List.push_append_toArray]

/-- The first change that stops the call stops it, whatever follows. -/
theorem visitAll_cons_of_error
    {index : Nat}
    {change : Json.Value}
    {e : Error}
    (stops : visit index change = .error e)
    (gathered : Array α)
    (rest : List Json.Value) :
    visit.visitAll index gathered (change :: rest) = .error e := by
  rw [visitAll, stops]

end Visitor

theorem members_of_stray
    {change : Json.Value}
    (stray : ∀ members, change ≠ .object members)
    (index : Nat) :
    members index change = .error (.notAnObject index) := by
  cases change with
  | object members => exact absurd rfl (stray members)
  | null => rfl
  | bool value => rfl
  | number value => rfl
  | string text => rfl
  | array items => rfl

end Visitor

/-- Changes are all objects, or one of them is the first that is none. -/
theorem objects_or_stray (changes : List Json.Value) :
    (∃ records : List Json.Members, changes = records.map Json.Value.object) ∨
      ∃ (records : List Json.Members) (change : Json.Value) (rest : List Json.Value),
        changes = records.map Json.Value.object ++ change :: rest ∧
          ∀ members, change ≠ .object members := by
  induction changes with
  | nil => exact Or.inl ⟨[], rfl⟩
  | cons head tail ih =>
      by_cases isObject : ∃ members, head = .object members
      · rcases isObject with ⟨members, rfl⟩
        rcases ih with ⟨records, rfl⟩ | ⟨records, change, rest, rfl, stray⟩
        · exact Or.inl ⟨members :: records, rfl⟩
        · exact Or.inr ⟨members :: records, change, rest, rfl, stray⟩
      · refine Or.inr ⟨[], head, tail, rfl, ?_⟩
        intro members same
        exact isObject ⟨members, same⟩

/-! ## Answers as objects and as texts -/

namespace Call

variable {call : Call}

/-- Texts are given of any changes. -/
theorem answer_of_texts
    (texts : call.givesTexts = true)
    (changes : List Json.Value) :
    call.answer changes = .ok (.texts (changes.map Json.Value.text)) := by
  have visited :=
    Visitor.text.visitAll_map id Json.Value.text (fun _ _ => rfl) 0 #[] changes
  rw [List.map_id] at visited
  rw [answer, if_pos texts, visited]
  simp [Except.map]

/-- Changes that are objects are given as they are. -/
theorem answer_of_records
    (objects : call.givesTexts = false)
    (records : List Json.Members) :
    call.answer (records.map Json.Value.object) = .ok (.objects records) := by
  have visited :=
    Visitor.members.visitAll_map Json.Value.object id (fun _ _ => rfl) 0 #[] records
  rw [answer, objects, if_neg Bool.false_ne_true, visited]
  simp [Except.map]

/-- A change that is no object is named by its place, whatever follows it. -/
theorem answer_of_stray
    (objects : call.givesTexts = false)
    (records : List Json.Members)
    {change : Json.Value}
    (stray : ∀ members, change ≠ .object members)
    (rest : List Json.Value) :
    call.answer (records.map Json.Value.object ++ change :: rest) =
      .error (.notAnObject records.length) := by
  have visited :=
    Visitor.members.visitAll_map Json.Value.object id (fun _ _ => rfl) 0 #[] records
  rw [answer, objects, if_neg Bool.false_ne_true, Visitor.visitAll_append, visited,
    List.length_map, Nat.zero_add]
  show (Visitor.members.visitAll _ _ _).map _ = _
  rw [Visitor.visitAll_cons_of_error _ (Visitor.members_of_stray stray _)]
  rfl

end Call

end ReviewQuery
