import ReviewQuery.Proofs.Client.Mirror

/-!
# The password stays between client and transport

Two configurations that differ in the password alone make clients whose sessions look the same: the
same results and errors, the same log, the same addresses and users, and the same texts wherever a
client, a configuration or a credential is shown for diagnosis.  The only trace of the password is
the one in the request: the password that a transport is given, or the header that is made from it.
-/

namespace ReviewQuery

/-! ## What is shown -/

/-- The two layouts of an outline: on one line, and with one part to a line. -/
def Text.Outline.texts (outline : Text.Outline) : String × String :=
  (outline.compact, outline.spread 0)

/-- What a step shows. -/
inductive Display where
  | answer (answer : Answer)
  | address (url : String)
  | config (config : Config)
  /-- The two texts that show a client. -/
  | outline (texts : String × String)
  | clone (isEqual : Bool)
  | comparison (isEqual : Bool)

/-- What a finding shows, if the transport of the client is shown by some outline. -/
def Finding.display (transport : Text.Outline) : Finding → Display
  | .answer given => .answer given
  | .address url => .address url
  | .config settings => .config settings
  | .outline client => .outline (client.outline transport).texts
  | .clone isEqual => .clone isEqual
  | .comparison isEqual => .comparison isEqual

/-- The outcome of a step with what it shows. -/
def Outcome.display
    {σ : Type}
    (transport : Text.Outline)
    (outcome : Outcome σ Finding) : Outcome σ Display :=
  outcome.map (Finding.display transport)

/-- Whether a step asks for changes, an address, the outline of the client or a copy.  The steps
that are left give the configuration away, or compare it with another one. -/
def StepWith.isDiscreet {ρ : Type} : StepWith ρ → Bool
  | .call _ _ _ | .address _ _ | .outline | .clone => true
  | .config | .compare _ => false

/-! ## Another password -/

/-- The credential with another password. -/
def Credential.withPassword (credential : Credential) (password : String) : Credential :=
  { credential with password := password }

/-- The configuration with another password. -/
def Config.withPassword (config : Config) (password : String) : Config :=
  { config with credential := config.credential.withPassword password }

/-- The request with another password. -/
def Request.withPassword (password : String) (request : Request) : Request :=
  { request with credential := request.credential.withPassword password }

/-- The request with another header for the credential. -/
def WireRequest.withAuthorization (authorization : String) (request : WireRequest) : WireRequest :=
  { request with authorization := authorization }

theorem Credential.outline_withPassword (credential : Credential) (password : String) :
    (credential.withPassword password).outline = credential.outline :=
  rfl

theorem Config.outline_withPassword (config : Config) (password : String) :
    (config.withPassword password).outline = config.outline :=
  rfl

namespace Client

/-! ## Sessions that look the same -/

section Mirrors

variable
  {ρ σ τ : Type}
  {change : σ → τ}
  {leftCarrier : ρ → Transport σ}
  {rightCarrier : ρ → Transport τ}
  {left right : Client}

/-- If mirrored clients have the same outline, then a discreet step shows the same on both. -/
theorem Mirrors.display_stepOver
    (mirrors : Mirrors change leftCarrier rightCarrier left right)
    (outline : ∀ transport, right.outline transport = left.outline transport)
    (transport : Text.Outline)
    {step : StepWith ρ}
    (discreet : step.isDiscreet = true) :
    (right.stepOver rightCarrier step).display transport =
      ((left.stepOver leftCarrier step).display transport).mapSent change := by
  cases step with
  | call call query reply =>
      rw [mirrors.stepOver_eq rfl]
      rfl
  | address query options =>
      rw [mirrors.stepOver_eq rfl]
      rfl
  | clone =>
      rw [mirrors.stepOver_eq rfl]
      rfl
  | outline =>
      show Outcome.quiet (.ok (Display.outline (right.outline transport).texts)) = _
      rw [outline]
      rfl
  | config => cases discreet
  | compare other => cases discreet

theorem Mirrors.display_runOver
    (mirrors : Mirrors change leftCarrier rightCarrier left right)
    (outline : ∀ transport, right.outline transport = left.outline transport)
    (transport : Text.Outline)
    {steps : List (StepWith ρ)}
    (discreet : ∀ step ∈ steps, step.isDiscreet = true) :
    (right.runOver rightCarrier steps).map (Outcome.display transport) =
      (left.runOver leftCarrier steps).map fun outcome =>
        (outcome.display transport).mapSent change := by
  rw [runOver_eq_map, runOver_eq_map, List.map_map, List.map_map]
  refine List.map_congr_left ?_
  intro step member
  exact mirrors.display_stepOver outline transport (discreet step member)

end Mirrors

/-! ## Transports that are given another password -/

section Password

variable
  (config : Config)
  (base password : String)

/-- A known reply does not depend on the credential. -/
theorem mirrors_scripted :
    Mirrors (Request.withPassword password) Transport.scripted Transport.scripted
      ⟨config, base⟩ ⟨config.withPassword password, base⟩ where
  base := rfl
  exchange := fun _ _ => rfl

/-- The reply of a server depends on the octets that it sends.  The credential is sent, but not read
again. -/
theorem mirrors_wire :
    Mirrors
      (WireRequest.withAuthorization (config.credential.withPassword password).authorization)
      Transport.wire Transport.wire
      ⟨config, base⟩ ⟨config.withPassword password, base⟩ where
  base := rfl
  exchange := fun _ _ => rfl

end Password

/-! ## Accepted clients -/

/--
Accepted clients for two configurations that differ in the password alone show the same in every
session of calls, addresses, outlines and copies.  Over known replies, and over the octets that a
server sends, results are the same, errors with all that they hold among them; so are the logs, and
so are the requests but for the password or for the header that is made from it.  Credential,
configuration and client have the same texts for diagnosis.
-/
theorem session_hides_password
    {config : Config}
    {password : String}
    {client other : Client}
    (made : new config = .ok client)
    (madeOther : new (config.withPassword password) = .ok other)
    (transport : Text.Outline) :
    (∀ steps : List Step, (∀ step ∈ steps, step.isDiscreet = true) →
        (other.run steps).map (Outcome.display transport) =
          (client.run steps).map fun outcome =>
            (outcome.display transport).mapSent (Request.withPassword password)) ∧
      (∀ steps : List (StepWith Http.Octets), (∀ step ∈ steps, step.isDiscreet = true) →
        (other.runOver .wire steps).map (Outcome.display transport) =
          (client.runOver .wire steps).map fun outcome =>
            (outcome.display transport).mapSent
              (.withAuthorization (config.credential.withPassword password).authorization)) ∧
      (config.credential.withPassword password).outline.texts = config.credential.outline.texts ∧
      (config.withPassword password).outline.texts = config.outline.texts ∧
      (other.outline transport).texts = (client.outline transport).texts := by
  rcases new_eq_ok_iff.mp made with ⟨_, rfl⟩
  rcases new_eq_ok_iff.mp madeOther with ⟨_, rfl⟩
  refine ⟨?_, ?_, ?_, ?_, rfl⟩
  · intro steps discreet
    exact (mirrors_scripted config _ password).display_runOver (fun _ => rfl) transport discreet
  · intro steps discreet
    exact (mirrors_wire config _ password).display_runOver (fun _ => rfl) transport discreet
  · rw [Credential.outline_withPassword]
  · rw [Config.outline_withPassword]

/-- A session in which the credential is refused, before the client is shown and copied. -/
def refusedSteps {ρ : Type} (refusal : ρ) : List (StepWith ρ) :=
  [.call .query "x" refusal, .outline, .clone]

theorem isDiscreet_of_mem_refusedSteps {ρ : Type} (refusal : ρ) :
    ∀ step ∈ refusedSteps refusal, step.isDiscreet = true := by
  simp [refusedSteps, StepWith.isDiscreet]

/-- A reply that refuses the credential. -/
def refusal : Except String Http.Response :=
  .ok ⟨401, "HTTP/1.1 401 Unauthorized", "who?"⟩

/-- What a server sends that refuses the credential. -/
def refusalOctets : Http.Octets :=
  Text.Utf8.ofString "HTTP/1.1 401 Unauthorized\r\n\r\nwho?"

/-- A client like `slashClient`, with another password. -/
def otherSlashClient : Client :=
  ⟨slashClient.config.withPassword "q", "http://h"⟩

/-- A refused credential is the same for two passwords, but for the header. -/
theorem session_hides_password_of_refusal :
    new slashClient.config = .ok slashClient ∧
      new (slashClient.config.withPassword "q") = .ok otherSlashClient ∧
      (otherSlashClient.run (refusedSteps refusal)).map (Outcome.display (.leaf "Scripted")) =
        ((slashClient.run (refusedSteps refusal)).map fun outcome =>
          (outcome.display (.leaf "Scripted")).mapSent (Request.withPassword "q")) ∧
      (otherSlashClient.runOver .wire (refusedSteps refusalOctets)).map
          (Outcome.display (.leaf "Agent")) =
        ((slashClient.runOver .wire (refusedSteps refusalOctets)).map fun outcome =>
          (outcome.display (.leaf "Agent")).mapSent (.withAuthorization "Basic dTpx")) := by
  have made : new (slashClient.config.withPassword "q") = .ok otherSlashClient :=
    new_eq_ok (by decide +kernel) (by decide)
  have header : (slashClient.config.credential.withPassword "q").authorization = "Basic dTpx" := by
    decide +kernel
  rcases session_hides_password slashClient_accepted made (.leaf "Scripted") with
    ⟨scripted, _, _, _, _⟩
  rcases session_hides_password slashClient_accepted made (.leaf "Agent") with
    ⟨_, wire, _, _, _⟩
  rw [header] at wire
  exact ⟨slashClient_accepted, made, scripted _ (isDiscreet_of_mem_refusedSteps refusal),
    wire _ (isDiscreet_of_mem_refusedSteps refusalOctets)⟩

end Client

end ReviewQuery
