import PullQuota.Proofs.Accounts
import PullQuota.Proofs.Failures

/-!
When the account is blamed for a failure, and whether it had been shown at all.
-/

namespace PullQuota

/-- The answer to a call has one of the statuses that refuse an account. -/
def Call.RefusesAccount (call : Call) : Prop :=
  ∃ response, call.response? = some response ∧ (response.status = 401 ∨ response.status = 403)

theorem Call.refusesAccount_iff {call : Call} : call.RefusesAccount ↔
    call.response?.map (·.status) = some 401 ∨ call.response?.map (·.status) = some 403 := by
  unfold RefusesAccount
  cases call.response? <;> simp

/-- The failure of an inquiry tells that the account was refused. -/
def Inquiry.Blames (inquiry : Inquiry) : Prop :=
  ∃ failure, inquiry.outcome = .failed failure ∧ failure.credentialsRejected = true

section Blames

variable {access : Access} {credentials : Credentials} {net : Network}

theorem fetchToken_blames_iff {ex : Exchange String}
    (h : fetchToken access credentials net = some ex) :
    (∃ failure, ex.outcome = .failed failure ∧ failure.credentialsRejected = true) ↔
      ex.call.RefusesAccount := by
  constructor
  · rintro ⟨failure, failed, blamed⟩
    obtain ⟨consistent, status⟩ := fetchToken_failed h failed
    obtain ⟨_, _, received⟩ := consistent.blames.mp blamed
    rw [status] at received
    exact Call.refusesAccount_iff.mpr received
  · rintro ⟨response, answered, unwelcome⟩
    have ended := fetchToken_end h
    unfold Call.response? at answered
    generalize ex.call.ending = ending at ended answered
    generalize ex.outcome = outcome at ended ⊢
    -- A response that was read has the status of success.
    cases ended with
    | unanswered fault expired timely => cases answered
    | refused response' state unread unused status =>
      cases answered
      refine ⟨_, rfl, ?_⟩
      rcases unwelcome with code | code <;> simp [Failure.credentialsRejected, code]
    | empty response' status none => cases answered; omega
    | broken response' fault expired status timely => cases answered; omega
    | read response' body status some => cases answered; omega

theorem fetchLimits_blames_not {token : String} {ex : Exchange Quota} {failure : Failure}
    (h : fetchLimits access token net = some ex) (failed : ex.outcome = .failed failure) :
    ¬ failure.credentialsRejected = true := by
  intro blamed
  have kind := ((fetchLimits_failed h failed).1.blames.mp blamed).1
  rcases fetchLimits_kind h failed with other | other <;> simp [kind] at other

theorem fetchQuota_blames_iff {inquiry : Inquiry}
    (h : fetchQuota access credentials net = some inquiry) :
    inquiry.Blames ↔ ∃ call, inquiry.calls = [call] ∧ call.RefusesAccount := by
  unfold Inquiry.Blames
  obtain ⟨first, hf, ⟨hc, _, ho⟩ | ⟨token, second, _, hs, hc, _, ho⟩⟩ := fetchQuota_eq_some h
  · have same : (∃ failure, inquiry.outcome = .failed failure ∧
        failure.credentialsRejected = true) ↔
        ∃ failure, first.outcome = .failed failure ∧ failure.credentialsRejected = true := by
      rcases ho with ⟨failure, hfo, ho⟩ | ⟨breakdown, hfo, ho⟩ <;> simp [hfo, ho]
    rw [same, fetchToken_blames_iff hf, hc]
    simp
  · constructor
    · rintro ⟨failure, failed, blamed⟩
      exact absurd blamed (fetchLimits_blames_not hs (ho.symm.trans failed))
    · rintro ⟨call, one, _⟩
      simp [hc] at one

theorem fetchQuota_head {inquiry : Inquiry}
    (h : fetchQuota access credentials net = some inquiry) :
    ∀ call ∈ inquiry.calls.head?, call.request.authorized = credentials.authentication := by
  intro call first
  obtain ⟨ex, hf, ⟨hc, _⟩ | ⟨_, second, _, _, hc, _⟩⟩ := fetchQuota_eq_some h
  all_goals
    rw [hc] at first
    cases first
    rw [fetchToken_call hf]
    exact tokenRequest_authorized _ _

end Blames

/-- A step with valid inputs publishes what its inquiry came to. -/
theorem runAction_of_valid {inputs : ActionInputs} {summaryFile : Option String} {files : Files}
    {net : Network} {n : Nat} {inquiry : Inquiry} (valid : inputs.Valid n)
    (asked : fetchQuota {} inputs.credentials net = some inquiry) :
    runAction inputs summaryFile files net =
      some (inputs.finish ((inputs.probe n).publish summaryFile files inquiry)) := by
  have given : ¬ (inputs.username ≠ "" ∧ inputs.password = "") :=
    fun ⟨named, unlocked⟩ => valid.password named unlocked
  have threshold := ActionInputs.threshold?_eq_some_iff.mpr valid.threshold
  have probed : probe (inputs.probe n) summaryFile files net =
      some ((inputs.probe n).publish summaryFile files inquiry) :=
    Option.map_eq_some_iff.mpr ⟨inquiry, asked, rfl⟩
  unfold runAction
  rw [if_neg given, threshold]
  exact Option.map_eq_some_iff.mpr ⟨_, probed, rfl⟩

/-- The message of a step whose account was refused, with the hint to check it. -/
def ProbeError.hintMessage : String :=
  "DockerHub status check failed: failed fetching dockerhub token (check username and password)"

theorem ProbeError.message_of_blamed {failure : Failure}
    (blamed : failure.credentialsRejected = true) :
    (ProbeError.failed failure).message = hintMessage := by
  have unwelcome : failure.message = "failed fetching dockerhub token" := by
    unfold Failure.credentialsRejected at blamed
    split at blamed
    next => rfl
    next => cases blamed
  calc (ProbeError.failed failure).message
      = "DockerHub status check failed: " ++ failure.message ++
          if failure.credentialsRejected then " (check username and password)" else "" := rfl
    _ = hintMessage := by rw [if_pos blamed, unwelcome]; simp [hintMessage]

/-- When an inquiry blames the account, and what comes of it: the details of the service and the
hint of the workflow step. -/
structure Inquiry.Accuses (inquiry : Inquiry) (access : Access) (credentials : Credentials)
    (net : Network) : Prop where
  blames : inquiry.Blames ↔ ∃ call, inquiry.calls = [call] ∧ call.RefusesAccount
  shown : ∀ call ∈ inquiry.calls.head?, call.request.authorized = credentials.authentication
  wrongly : (inquiry.Blames ∧ ∀ call ∈ inquiry.calls, call.request.authorized = false) ↔
    credentials.authentication = false ∧ ∃ call, inquiry.calls = [call] ∧ call.RefusesAccount
  details : inquiry.Blames → ∀ store id resolved, store.credentials = .ok credentials →
    resolveStatus store access id net = some resolved → resolved.calls ≠ [] →
    ∃ refusal status, resolved.resolution = .refused refusal ∧ refusal.details =
      "DockerHub rejected the stored credentials (HTTP " ++ toString (status : Nat) ++ ")"
  hint : inquiry.Blames → ∀ inputs n summaryFile files, access = {} →
    inputs.credentials = credentials → inputs.Valid n →
    ∃ run, runAction inputs summaryFile files net = some run ∧
      run.log.getLast? = some (.error ProbeError.hintMessage)

section Accuses

variable {access : Access} {credentials : Credentials} {net : Network} {inquiry : Inquiry}

theorem Inquiry.Blames.details (h : fetchQuota access credentials net = some inquiry)
    (blames : inquiry.Blames) {store : Store} {id : String} {resolved : Resolved}
    (account : store.credentials = .ok credentials)
    (hr : resolveStatus store access id net = some resolved) (asked : resolved.calls ≠ []) :
    ∃ refusal status, resolved.resolution = .refused refusal ∧ refusal.details =
      "DockerHub rejected the stored credentials (HTTP " ++ toString (status : Nat) ++ ")" := by
  obtain ⟨failure, failed, blamed⟩ := blames
  rcases resolveStatus_eq_some hr with ⟨_, rfl, _⟩ | ⟨credentials', account', hr⟩
  · exact absurd rfl asked
  · cases Except.ok.inj (account.symm.trans account')
    obtain ⟨inquiry', h', rfl⟩ := Option.map_eq_some_iff.mp hr
    cases Option.some.inj (h.symm.trans h')
    obtain ⟨status, _, details⟩ := (fetchQuota_failed h failed).1.details_of_blamed blamed
    exact ⟨.registry failure, status, by simp [Resolution.ofOutcome, failed], details⟩

theorem Inquiry.Blames.hint {inputs : ActionInputs} {n : Nat} (valid : inputs.Valid n)
    (h : fetchQuota {} inputs.credentials net = some inquiry) (blames : inquiry.Blames)
    (summaryFile : Option String) (files : Files) :
    ∃ run, runAction inputs summaryFile files net = some run ∧
      run.log.getLast? = some (.error ProbeError.hintMessage) := by
  obtain ⟨failure, failed, blamed⟩ := blames
  refine ⟨_, runAction_of_valid valid h, ?_⟩
  simp only [ProbeInputs.publish, failed, ActionInputs.finish, List.getLast?_concat,
    ProbeError.message_of_blamed blamed]

/-- The account is blamed whenever the token service answers with 401 or 403, whether or not it was
shown; and it is shown only if it is one to show. -/
theorem fetchQuota_accuses (h : fetchQuota access credentials net = some inquiry) :
    inquiry.Accuses access credentials net where
  blames := fetchQuota_blames_iff h
  shown := fetchQuota_head h
  wrongly := by
    rw [fetchQuota_blames_iff h]
    constructor
    · rintro ⟨⟨call, one, refuses⟩, unshown⟩
      have shown := fetchQuota_head h call (by simp [one])
      exact ⟨shown.symm.trans (unshown call (by simp [one])), call, one, refuses⟩
    · rintro ⟨anonymous, call, one, refuses⟩
      have shown := fetchQuota_head h call (by simp [one])
      refine ⟨⟨call, one, refuses⟩, fun other mem => ?_⟩
      rw [one, List.mem_singleton] at mem
      exact mem ▸ shown.trans anonymous
  details blames _ _ _ account hr asked := blames.details h account hr asked
  hint blames inputs n summaryFile files same account valid := by
    subst same account
    exact blames.hint valid h summaryFile files

end Accuses

theorem fetchQuota_accuses_account : ∃ inquiry,
    fetchQuota {} ⟨true, "me", "secret", []⟩ (.refusing 401) = some inquiry ∧ inquiry.Blames ∧
    inquiry.Accuses {} ⟨true, "me", "secret", []⟩ (.refusing 401) := by
  have inquired : (fetchQuota {} ⟨true, "me", "secret", []⟩ (.refusing 401)).map (·.outcome) =
      some (.failed (.refused .token 401)) := by
    decide +kernel
  obtain ⟨inquiry, asked, failed⟩ := Option.map_eq_some_iff.mp inquired
  exact ⟨inquiry, asked, ⟨_, failed, rfl⟩, fetchQuota_accuses asked⟩

/-- Without an account, one is blamed all the same. -/
theorem fetchQuota_blames_nobody : ∃ inquiry,
    fetchQuota {} .anonymous (.refusing 401) = some inquiry ∧ inquiry.Blames ∧
    ∀ call ∈ inquiry.calls, call.request.authorized = false := by
  have inquired : (fetchQuota {} .anonymous (.refusing 401)).map
      (fun inquiry => (inquiry.outcome, inquiry.calls.map (·.request.authorized))) =
      some (.failed (.refused .token 401), [false]) := by
    decide +kernel
  obtain ⟨inquiry, asked, ended⟩ := Option.map_eq_some_iff.mp inquired
  obtain ⟨failed, authorized⟩ := Prod.mk.inj ended
  obtain ⟨call, calls, unshown⟩ := List.map_eq_singleton_iff.mp authorized
  exact ⟨inquiry, asked, ⟨_, failed, rfl⟩, by simpa [calls] using unshown⟩

end PullQuota
