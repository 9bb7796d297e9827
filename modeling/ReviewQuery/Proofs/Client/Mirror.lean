import ReviewQuery.Proofs.Client.Session

/-!
# Clients that mirror each other

Two clients with the same base build the same addresses, errors and records.  If their transports
then bring the same replies, a call differs at most in what is recorded of its request; `change`
says how one record is made from the other.  The same holds of every step that does not ask for the
client itself.
-/

namespace ReviewQuery

/-! ## Changed records of requests -/

section Change

variable
  {σ τ α : Type}
  (change : σ → τ)

/-- The exchange with every record of a request changed. -/
def Exchange.mapSent (exchange : Exchange σ) : Exchange τ :=
  ⟨exchange.reply, exchange.sent.map change⟩

/-- The outcome with every record of a request changed. -/
def Outcome.mapSent (outcome : Outcome σ α) : Outcome τ α :=
  ⟨outcome.result, outcome.sent.map change, outcome.log⟩

end Change

theorem Outcome.mapSent_id {σ α : Type} (outcome : Outcome σ α) : outcome.mapSent id = outcome := by
  rw [Outcome.mapSent, List.map_id]

/-- Whether a step asks only for changes, an address or a copy. -/
def StepWith.isQuerying {ρ : Type} : StepWith ρ → Bool
  | .call _ _ _ | .address _ _ | .clone => true
  | .config | .outline | .compare _ => false

namespace Client

/-! ## Clients with the same base -/

section Base

variable
  {left right : Client}
  (base : right.base = left.base)

include base

theorem address_of_base (query : String) (options : Query.Options) :
    right.address query options = left.address query options := by
  rw [address, address, base]

theorem readResponse_of_base (url : String) (response : Http.Response) :
    right.readResponse url response = left.readResponse url response := by
  have error (verdict : Verdict) :
      right.verdictError? url verdict = left.verdictError? url verdict := by
    cases verdict <;> simp only [verdictError?, base]
  rw [readResponse, readResponse, error]

theorem verdictRecord_of_base (body : String) (verdict : Verdict) :
    right.verdictRecord body verdict = left.verdictRecord body verdict := by
  cases verdict <;> simp only [verdictRecord, base]

end Base

/-! ## Mirrored steps -/

/-- Clients with the same base whose transports bring the same replies. -/
structure Mirrors
    {ρ σ τ : Type}
    (change : σ → τ)
    (leftCarrier : ρ → Transport σ)
    (rightCarrier : ρ → Transport τ)
    (left right : Client) : Prop where
  base : right.base = left.base
  exchange :
    ∀ reply address,
      rightCarrier reply address right.config.credential =
        (leftCarrier reply address left.config.credential).mapSent change

namespace Mirrors

variable
  {ρ σ τ : Type}
  {change : σ → τ}
  {leftCarrier : ρ → Transport σ}
  {rightCarrier : ρ → Transport τ}
  {left right : Client}

/-- A call differs at most in the records of its requests. -/
theorem call_eq
    (mirrors : Mirrors change leftCarrier rightCarrier left right)
    (reply : ρ)
    (call : Call)
    (query : String) :
    right.call (rightCarrier reply) call query =
      (left.call (leftCarrier reply) call query).mapSent change := by
  simp only [Client.call, fetch, address_of_base mirrors.base, mirrors.exchange,
    readResponse_of_base mirrors.base, verdictRecord_of_base mirrors.base, Exchange.mapSent]
  split <;> rfl

/-- A step that does not ask for the client differs at most in the records of its requests. -/
theorem stepOver_eq
    (mirrors : Mirrors change leftCarrier rightCarrier left right)
    {step : StepWith ρ}
    (querying : step.isQuerying = true) :
    right.stepOver rightCarrier step = (left.stepOver leftCarrier step).mapSent change := by
  cases step with
  | call call query reply =>
      rw [stepOver, stepOver, mirrors.call_eq]
      rfl
  | address query options =>
      rw [stepOver, stepOver, address_of_base mirrors.base]
      rfl
  | clone =>
      rw [stepOver_clone, stepOver_clone]
      rfl
  | config => cases querying
  | outline => cases querying
  | compare other => cases querying

end Mirrors

end Client

end ReviewQuery
