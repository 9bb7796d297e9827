import ReviewQuery.Client.Basic
import ReviewQuery.Client.Transport
import ReviewQuery.Query.Payload

/-!
# Calls

A call sends one query and reads the answer.  Its outcome is the result together with what was sent
and what was logged.  Only an answer with status 200 is read; every other status is an error of its
own, whatever the answer holds.  The changes of an answer are visited one by one, and the calls
differ in the visitor.
-/

namespace ReviewQuery

/-! ## Records of a call -/

/-- How important a log record is. -/
inductive Level where
  | debug
  | trace
  | error
  deriving DecidableEq, Repr

/-- One record of the log. -/
structure LogRecord where
  level : Level
  message : String
  deriving DecidableEq, Repr

/-- What comes of a step: its result, what was sent, and what was logged. -/
structure Outcome (σ α : Type) where
  result : Except Error α
  sent : List σ
  log : List LogRecord

/-- The outcome whose result is passed on to one more step that sends and logs nothing. -/
def Outcome.andThen
    {σ α β : Type}
    (outcome : Outcome σ α)
    (next : α → Except Error β) : Outcome σ β :=
  { outcome with result := outcome.result.bind next }

/-! ## The verdict of a status -/

/-- What a status says about a query. -/
inductive Verdict where
  /-- The response holds the changes. -/
  | accepted
  /-- The server refuses the query. -/
  | refused
  /-- The server refuses the credential. -/
  | unauthorized
  /-- The server does not know the endpoint. -/
  | notFound
  /-- Something else went wrong. -/
  | failed (status : Nat)
  deriving DecidableEq, Repr

/-- The verdict of a status. -/
def Verdict.ofStatus (status : Nat) : Verdict :=
  if status = 200 then .accepted
  else if status = 400 then .refused
  else if status = 401 then .unauthorized
  else if status = 404 then .notFound
  else .failed status

namespace Client

/-- The error that a verdict stands for, unless the query is accepted. -/
def verdictError? (client : Client) (url : String) : Verdict → Option Error
  | .accepted => none
  | .refused => some (.badQuery url)
  | .unauthorized => some (.unauthorized client.base)
  | .notFound => some (.notFound client.base)
  | .failed status => some (.badStatus client.base status)

/-- The log record that tells how a response with some verdict and body was taken. -/
def verdictRecord (client : Client) (body : String) : Verdict → LogRecord
  | .accepted => ⟨.trace, "Body received: " ++ body⟩
  | .refused => ⟨.error, client.base ++ ": Bad request (400)"⟩
  | .unauthorized => ⟨.error, "Unable to authenticate to \"" ++ client.base ++ "\""⟩
  | .notFound => ⟨.error, "\"" ++ client.base ++ "\": Could not be found! (404)"⟩
  | .failed status =>
    ⟨.error, "Error connecting to \"" ++ client.base ++ "\"! (" ++ toString status ++ ")"⟩

/-- The changes that a response brings. -/
def readResponse
    (client : Client)
    (url : String)
    (response : Http.Response) : Except Error (List Json.Value) :=
  match client.verdictError? url (.ofStatus response.status) with
  | some e => .error e
  | none => readChanges response.body

/-- Send one query and read the changes of the answer. -/
def fetch
    {σ : Type}
    (client : Client)
    (transport : Transport σ)
    (query : String)
    (options : Query.Options) : Outcome σ (List Json.Value) :=
  let url := client.address query options
  let exchange := transport url client.config.credential
  let sending : LogRecord := ⟨.debug, "sending: " ++ url⟩
  match exchange.reply with
  | .error reason =>
    { result := .error (.transport reason), sent := exchange.sent, log := [sending] }
  | .ok response =>
    { result := client.readResponse url response
      sent := exchange.sent
      log :=
        [sending, ⟨.debug, "Status received: " ++ response.statusLine⟩,
          client.verdictRecord response.body (.ofStatus response.status)] }

end Client

/-! ## Visiting changes -/

/-- What a call keeps of the change at an index, unless the change stops the call. -/
abbrev Visitor (α : Type) : Type :=
  Nat → Json.Value → Except Error α

namespace Visitor

/-- Visit changes in order and gather what is kept of them, up to the first change that stops the
call.  The first of the changes has the given index. -/
def visitAll
    {α : Type}
    (visit : Visitor α)
    (index : Nat)
    (gathered : Array α) : List Json.Value → Except Error (Array α)
  | [] => .ok gathered
  | change :: rest =>
    match visit index change with
    | .error e => .error e
    | .ok item => visitAll visit (index + 1) (gathered.push item) rest

/-- Keeps the members of a change, which has to be an object. -/
def members : Visitor Json.Members :=
  fun index change =>
    match change with
    | .object members => .ok members
    | _ => .error (.notAnObject index)

/-- Keeps the compact text of a change, whatever it is. -/
def text : Visitor String :=
  fun _ change => .ok change.text

end Visitor

/-- The changes of an answer, as a call gives them. -/
inductive Answer where
  | objects (records : List Json.Members)
  | texts (list : List String)

/-- Every change as compact JSON text. -/
def Answer.toTexts : Answer → List String
  | .objects records => records.map fun members => (Json.Value.object members).text
  | .texts list => list

/-! ## The calls of a client -/

/-- A call of a client. -/
inductive Call where
  /-- The changes with the standard options, as objects. -/
  | query
  /-- The changes with the standard options, as texts. -/
  | queryTexts
  /-- The changes with the files of their current revision. -/
  | queryFiles
  /-- The changes with their current revision. -/
  | queryCurrentPatchSets
  /-- The changes as objects, with chosen options. -/
  | queryAsObjects (options : Query.Options)
  /-- The changes as texts, with chosen options. -/
  | queryAsTexts (options : Query.Options)
  deriving DecidableEq, Repr

namespace Call

/-- The options that a call sends. -/
def options : Call → Query.Options
  | .query | .queryTexts => .standard
  | .queryFiles => .files
  | .queryCurrentPatchSets => .currentPatchSets
  | .queryAsObjects options | .queryAsTexts options => options

/-- Whether a call gives texts. -/
def givesTexts : Call → Bool
  | .queryTexts | .queryAsTexts _ => true
  | _ => false

/-- The changes of an answer, visited as the call asks for. -/
def answer (call : Call) (changes : List Json.Value) : Except Error Answer :=
  if call.givesTexts then
    (Visitor.text.visitAll 0 #[] changes).map fun lines => .texts lines.toList
  else
    (Visitor.members.visitAll 0 #[] changes).map fun records => .objects records.toList

end Call

/-- Make a call. -/
def Client.call
    {σ : Type}
    (client : Client)
    (transport : Transport σ)
    (call : Call)
    (query : String) : Outcome σ Answer :=
  (client.fetch transport query call.options).andThen call.answer

end ReviewQuery
