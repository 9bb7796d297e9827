import ReviewQuery.Client.Call

/-!
# Sessions

A session is a list of steps on one client.  Each step has an outcome of its own; the only thing
that a step leaves behind is the client, which a clone replaces by an equal one.  A call comes with
what the transport makes its reply of, so that a session can run over any transport: over known
replies, or over the octets that a server sends.
-/

namespace ReviewQuery

/-- A step of a session whose calls are answered from values of some type. -/
inductive StepWith (ρ : Type) where
  /-- A call, with what the transport makes the reply of. -/
  | call (call : Call) (query : String) (reply : ρ)
  /-- The address of a query. -/
  | address (query : String) (options : Query.Options)
  /-- The configuration of the client. -/
  | config
  /-- The client as it is shown for diagnosis. -/
  | outline
  /-- A copy takes the place of the client. -/
  | clone
  /-- A comparison with the client for another configuration. -/
  | compare (other : Config)

/-- A step of a session whose calls have known replies. -/
abbrev Step : Type :=
  StepWith (Except String Http.Response)

/-- What a step finds. -/
inductive Finding where
  | answer (answer : Answer)
  | address (url : String)
  | config (config : Config)
  | outline (client : Client)
  /-- Whether the copy and its hash equal the client and its hash. -/
  | clone (isEqual : Bool)
  | comparison (isEqual : Bool)

/-- The outcome of a step that sends and logs nothing. -/
def Outcome.quiet {σ α : Type} (result : Except Error α) : Outcome σ α :=
  ⟨result, [], []⟩

/-- What the outcome of a step finds. -/
def Outcome.map {σ α β : Type} (f : α → β) (outcome : Outcome σ α) : Outcome σ β :=
  { outcome with result := outcome.result.map f }

namespace Client

section Session

variable {ρ σ : Type}

/-- The client after a step. -/
def afterStep (client : Client) : StepWith ρ → Client
  | .clone => ⟨client.config, client.base⟩
  | _ => client

/-- The outcome of a step over a kind of transport. -/
def stepOver
    (carrier : ρ → Transport σ)
    (client : Client)
    (step : StepWith ρ) : Outcome σ Finding :=
  match step with
  | .call call query reply =>
    (client.call (carrier reply) call query).map .answer
  | .address query options => .quiet (.ok (.address (client.address query options)))
  | .config => .quiet (.ok (.config client.config))
  | .outline => .quiet (.ok (.outline client))
  | .clone =>
    let copy := client.afterStep step
    .quiet (.ok (.clone (copy == client && hash copy == hash client)))
  | .compare other =>
    .quiet ((Client.new other).map fun rival => .comparison (client == rival))

/-- The outcomes of the steps of a session over a kind of transport. -/
def runOver
    (carrier : ρ → Transport σ)
    (client : Client) : List (StepWith ρ) → List (Outcome σ Finding)
  | [] => []
  | step :: rest => client.stepOver carrier step :: (client.afterStep step).runOver carrier rest

end Session

/-- The outcomes of the steps of a session with known replies. -/
def run (client : Client) (steps : List Step) : List (Outcome Request Finding) :=
  client.runOver .scripted steps

end Client

end ReviewQuery
