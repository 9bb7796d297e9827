import Mathlib.Data.List.Basic
import ReviewQuery.Client.Session
import ReviewQuery.Config.Classes
import ReviewQuery.Proofs.Client.Basic
import ReviewQuery.Proofs.Client.Call

/-!
# Steps of a session are independent

No step changes the client: a copy holds what the client holds, and every other step leaves the
client in place, whether it fails or not.  So a session is its steps, each taken for itself, and the
requests of a session are those of its calls, in order.
-/

namespace ReviewQuery.Client

/-! ## The client of a session -/

section Carrier

variable
  {ρ σ : Type}
  (client : Client)

/-- The client after some steps. -/
def after (steps : List (StepWith ρ)) : Client :=
  steps.foldl afterStep client

theorem afterStep_eq (step : StepWith ρ) : client.afterStep step = client := by
  cases step <;> rfl

theorem after_eq (steps : List (StepWith ρ)) : client.after steps = client := by
  induction steps with
  | nil => rfl
  | cons step rest ih =>
      show (client.afterStep step).after rest = client
      rw [afterStep_eq, ih]

/-- A copy equals the client and has its hash. -/
theorem stepOver_clone (carrier : ρ → Transport σ) :
    client.stepOver carrier .clone = .quiet (.ok (.clone true)) := by
  have equal : (client == client) = true := beq_iff_config_eq.mpr rfl
  simp only [stepOver, afterStep_eq, equal, beq_self_eq_true, Bool.and_self]

/-! ## Steps taken for themselves -/

/-- The outcomes of a session are those of its steps, because each step leaves the client itself
behind. -/
theorem runOver_eq_map (carrier : ρ → Transport σ) (steps : List (StepWith ρ)) :
    client.runOver carrier steps = steps.map (client.stepOver carrier) := by
  induction steps with
  | nil => rfl
  | cons step rest ih => rw [runOver, afterStep_eq, ih, List.map_cons]

theorem runOver_eq_flatMap (carrier : ρ → Transport σ) (steps : List (StepWith ρ)) :
    client.runOver carrier steps = steps.flatMap fun step => client.runOver carrier [step] := by
  simp only [runOver_eq_map, List.map_cons, List.map_nil]
  exact List.map_eq_flatMap

/-- Every step keeps its outcome wherever it stands. -/
theorem zip_runOver (carrier : ρ → Transport σ) (steps : List (StepWith ρ)) :
    steps.zip (client.runOver carrier steps) =
      steps.map fun step => (step, client.stepOver carrier step) := by
  rw [runOver_eq_map]
  induction steps with
  | nil => rfl
  | cons step rest ih => rw [List.map_cons, List.zip_cons_cons, ih, List.map_cons]

end Carrier

/-! ## The requests of a session -/

/-- The request of a step with some credential, if it is a call. -/
def request? (client : Client) (credential : Credential) : Step → Option Request
  | .call call query _ => some ⟨client.address query call.options, credential⟩
  | _ => none

theorem sent_stepOver (client : Client) (step : Step) :
    (client.stepOver .scripted step).sent =
      (client.request? client.config.credential step).toList := by
  cases step with
  | call call query reply => exact sent_call
  | address query options => rfl
  | config => rfl
  | outline => rfl
  | clone => rfl
  | compare other => rfl

/-! ## Sessions of an accepted client -/

/--
The outcomes of a session are those of its steps, each taken alone on a fresh client for the same
configuration, and a fresh client is what the session leaves behind.  In another order every step
keeps its outcome.  A call sends one request, to the address of its query and with the credential of
the configuration; no other step sends any, so the requests of a session are those of its calls, in
order.
-/
theorem run_independent
    {config : Config}
    {client fresh : Client}
    (made : new config = .ok client)
    (madeFresh : new config = .ok fresh)
    (steps : List Step) :
    client.run steps = (steps.flatMap fun step => fresh.run [step]) ∧
      client.after steps = fresh ∧
      (∀ others : List Step, others.Perm steps →
        (others.zip (client.run others)).Perm (steps.zip (client.run steps))) ∧
      (client.run steps).map Outcome.sent =
        (steps.map fun step => (client.request? config.credential step).toList) ∧
      (client.run steps).flatMap Outcome.sent =
        steps.filterMap (client.request? config.credential) := by
  rcases new_eq_ok_iff.mp made with ⟨_, rfl⟩
  rcases new_eq_ok_iff.mp madeFresh with ⟨_, rfl⟩
  have requests : (run ⟨config, dropSlash config.baseUrl⟩ steps).map Outcome.sent =
      steps.map fun step =>
        (request? ⟨config, dropSlash config.baseUrl⟩ config.credential step).toList := by
    rw [run, runOver_eq_map, List.map_map]
    exact List.map_congr_left fun step _ => sent_stepOver _ step
  refine ⟨runOver_eq_flatMap _ _ steps, after_eq _ steps, ?_, requests, ?_⟩
  · intro others reordered
    rw [run, run, zip_runOver, zip_runOver]
    exact reordered.map _
  · rw [List.flatMap_def, requests, List.filterMap_eq_flatMap_toList, List.flatMap_def]

/-- A session in which calls and a comparison fail around a copy. -/
def troubledSteps : List Step :=
  [.call .query "x" (.error "down"), .clone, .compare (.new "no url" ⟨"u", "p"⟩),
    .call .queryTexts "y" (.ok ⟨500, "HTTP/1.1 500", ""⟩), .outline,
    .call (.queryAsTexts .bare) "z" (.ok ⟨200, "HTTP/1.1 200", "[]"⟩)]

/-- Failures leave nothing behind: three calls send three requests, also in the other order. -/
theorem run_independent_of_failures :
    new slashClient.config = .ok slashClient ∧
      (slashClient.run troubledSteps).flatMap Outcome.sent =
        [⟨"http://h/a/changes/?q=x&o=ALL_REVISIONS&o=CURRENT_REVISION", ⟨"u", "p"⟩⟩,
          ⟨"http://h/a/changes/?q=y&o=ALL_REVISIONS&o=CURRENT_REVISION", ⟨"u", "p"⟩⟩,
          ⟨"http://h/a/changes/?q=z", ⟨"u", "p"⟩⟩] ∧
      (troubledSteps.reverse.zip (slashClient.run troubledSteps.reverse)).Perm
        (troubledSteps.zip (slashClient.run troubledSteps)) := by
  rcases run_independent slashClient_accepted slashClient_accepted troubledSteps with
    ⟨_, _, reordered, _, requests⟩
  refine ⟨slashClient_accepted, ?_, reordered _ troubledSteps.reverse_perm⟩
  rw [requests]
  decide +kernel

end ReviewQuery.Client
