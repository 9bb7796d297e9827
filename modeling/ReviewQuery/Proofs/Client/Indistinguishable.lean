import ReviewQuery.Proofs.Client.Mirror
import ReviewQuery.Proofs.Query.Address

/-!
# Clients that no query tells apart

What a client does in a session of calls, addresses and copies depends on its base and its
credential, and on nothing else: not on the proxy, and not on the one slash that is dropped from
the base URL.  Where base or credential differ, known replies are enough to tell two clients apart;
where they agree, no transport does.  Clients are equal if their configurations are, and the base
is always the one that the configuration gives, so equal clients cannot be told apart either.
-/

namespace ReviewQuery.Client

/-- Whether two clients have the same outcomes in every session of calls, addresses and copies over
a kind of transport. -/
def Indistinguishable {ρ σ : Type} (carrier : ρ → Transport σ) (left right : Client) : Prop :=
  ∀ steps : List (StepWith ρ), (∀ step ∈ steps, step.isQuerying = true) →
    left.runOver carrier steps = right.runOver carrier steps

/-! ## What a session depends on -/

section Clients

variable
  {left right : Client}

/-- Nothing but base and credential enters a session. -/
theorem Indistinguishable.of_base
    {ρ σ : Type}
    (carrier : ρ → Transport σ)
    (base : left.base = right.base)
    (credential : left.config.credential = right.config.credential) :
    Indistinguishable carrier left right := by
  intro steps querying
  have mirrors : Mirrors id carrier carrier left right := by
    refine ⟨base.symm, ?_⟩
    intro reply address
    rw [credential, Exchange.mapSent, List.map_id]
  rw [runOver_eq_map, runOver_eq_map]
  refine List.map_congr_left ?_
  intro step member
  rw [mirrors.stepOver_eq (querying step member), Outcome.mapSent_id]

/-- One address tells the base. -/
theorem Indistinguishable.base_eq
    (alike : Indistinguishable .scripted left right) :
    left.base = right.base := by
  have same := alike [.address "" .bare] (by decide)
  simp only [runOver, stepOver, Outcome.quiet, List.cons.injEq, Outcome.mk.injEq,
    Except.ok.injEq, Finding.address.injEq, and_true] at same
  exact (Query.address_left_inj "" .bare).mp same

/-- One request tells the credential. -/
theorem Indistinguishable.credential_eq
    (alike : Indistinguishable .scripted left right) :
    left.config.credential = right.config.credential := by
  have same := alike [.call .query "" (.error "")] (by decide)
  have sent := congrArg (List.map Outcome.sent) same
  simp only [runOver, List.map_cons, List.map_nil, sent_stepOver, request?, Option.toList_some,
    List.cons.injEq, Request.mk.injEq, and_true] at sent
  exact sent.2

theorem indistinguishable_iff :
    Indistinguishable .scripted left right ↔
      left.base = right.base ∧ left.config.credential = right.config.credential := by
  constructor
  · intro alike
    exact ⟨alike.base_eq, alike.credential_eq⟩
  · rintro ⟨base, credential⟩
    exact .of_base _ base credential

end Clients

/-! ## Accepted clients -/

/-- A slash behind the base URL makes another configuration. -/
theorem beq_with_slash_eq_false (config : Config) (base base' : String) :
    ((⟨config, base⟩ : Client) ==
      ⟨{ config with baseUrl := config.baseUrl ++ "/" }, base'⟩) = false := by
  rw [Bool.eq_false_iff, Ne, beq_iff_config_eq]
  intro same
  have baseUrl : config.baseUrl = config.baseUrl ++ "/" := congrArg Config.baseUrl same
  have length := congrArg String.length baseUrl
  rw [String.length_append] at length
  have slash : "/".length = 1 := rfl
  omega

/--
Accepted clients cannot be told apart exactly if their base URLs agree up to one slash at the end,
and their users and passwords agree.  So a client is like one for any other proxy, and like the
unequal one for its base URL with a slash behind it.  Clients that are equal, after whatever
sessions, have equal hashes and cannot be told apart: a session leaves the base that the
configuration gives.
-/
theorem indistinguishable_iff_same_settings
    {a b : Config}
    {left right : Client}
    (madeLeft : new a = .ok left)
    (madeRight : new b = .ok right) :
    (Indistinguishable .scripted left right ↔
      dropSlash a.baseUrl = dropSlash b.baseUrl ∧
        a.credential.username = b.credential.username ∧
        a.credential.password = b.credential.password) ∧
      (∀ proxy, ∃ other, new { a with proxy := proxy } = .ok other ∧
        ∀ {ρ σ : Type} (carrier : ρ → Transport σ), Indistinguishable carrier left other) ∧
      (a.baseUrl.toList.getLast? ≠ some '/' → b = { a with baseUrl := a.baseUrl ++ "/" } →
        (left == right) = false ∧
          ∀ {ρ σ : Type} (carrier : ρ → Transport σ), Indistinguishable carrier left right) ∧
      ∀ before before' : List Step, (left.after before == right.after before') = true →
        hash (left.after before) = hash (right.after before') ∧
          ∀ {ρ σ : Type} (carrier : ρ → Transport σ),
            Indistinguishable carrier (left.after before) (right.after before') := by
  rcases new_eq_ok_iff.mp madeLeft with ⟨parsed, rfl⟩
  rcases new_eq_ok_iff.mp madeRight with ⟨_, rfl⟩
  refine ⟨?_, ?_, ?_, ?_⟩
  · rw [indistinguishable_iff, Credential.mk.injEq]
  · intro proxy
    refine ⟨_, new_eq_ok_iff.mpr ⟨parsed, rfl⟩, ?_⟩
    intro ρ σ carrier
    exact .of_base carrier rfl rfl
  · rintro noSlash rfl
    refine ⟨beq_with_slash_eq_false a _ _, ?_⟩
    intro ρ σ carrier
    refine .of_base carrier ?_ rfl
    show dropSlash a.baseUrl = dropSlash (a.baseUrl ++ "/")
    rw [dropSlash_of_ne noSlash, dropSlash_append_slash]
  · intro before before' equal
    refine ⟨hash_eq_of_beq equal, ?_⟩
    rw [after_eq, after_eq] at equal ⊢
    have config : a = b := beq_iff_config_eq.mp equal
    intro ρ σ carrier
    rw [config]
    exact .of_base carrier rfl rfl

/-- A slash at the end of the base URL makes a client unequal, but no query shows it; nor does a
query show a copy. -/
theorem indistinguishable_with_slash :
    new webClient.config = .ok webClient ∧
      new slashClient.config = .ok slashClient ∧
      (webClient == slashClient) = false ∧
      Indistinguishable .scripted webClient slashClient ∧
      (slashClient.after [(.clone : Step), .outline] == slashClient.after ([] : List Step)) = true ∧
      Indistinguishable .wire (slashClient.after [(.clone : Step), .outline])
        (slashClient.after ([] : List Step)) := by
  have equal :
      (slashClient.after [(.clone : Step), .outline] == slashClient.after ([] : List Step)) =
        true :=
    beq_iff_config_eq.mpr rfl
  rcases indistinguishable_iff_same_settings webClient_accepted slashClient_accepted with
    ⟨_, _, slash, _⟩
  rcases indistinguishable_iff_same_settings slashClient_accepted slashClient_accepted with
    ⟨_, _, _, copies⟩
  rcases slash (by decide) rfl with ⟨unequal, alike⟩
  exact ⟨webClient_accepted, slashClient_accepted, unequal, alike _, equal, (copies _ _ equal).2 _⟩

end ReviewQuery.Client
