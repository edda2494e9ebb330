import PullQuota.Proofs.Admission

/-!
The failures that a run ends with: what their parts tell of one another, and how they are reported.
-/

namespace PullQuota

namespace Failure

/-- What the kind, the cause and the status of a failure tell of one another. -/
structure Consistent (failure : Failure) : Prop where
  refused : failure.cause = .unexpectedStatus ↔
    ∃ status, failure.status = some status ∧ status ≠ 200
  decode : failure.cause = .decode → failure.kind = .auth ∧ failure.status = some 200
  header : failure.cause = .missingHeader ∨ failure.cause = .malformedHeader ↔
    failure.kind = .protocol
  headerStatus : failure.kind = .protocol → failure.status = some 200
  interrupted : failure.cause = .transport ∨ failure.cause = .timeout →
    failure.status = none ∨ failure.status = some 200 ∧ failure.kind = .auth
  blames : failure.credentialsRejected = true ↔
    failure.kind = .auth ∧ failure.cause = .unexpectedStatus ∧
      (failure.status = some 401 ∨ failure.status = some 403)

variable {failure : Failure}

/-- Of all failures only a refusal with the status of success contradicts itself. -/
theorem consistent_of_ne (h : ∀ stage, failure ≠ .refused stage 200) : failure.Consistent := by
  cases failure with
  | unanswered stage trouble =>
    cases stage <;> cases trouble <;> constructor <;>
      simp [kind, cause, status, credentialsRejected, Trouble.cause]
  | refused stage code =>
    have code_ne : code ≠ 200 := by
      rintro rfl
      exact h stage rfl
    cases stage <;> constructor <;> simp [kind, cause, status, credentialsRejected, code_ne]
  | brokenToken trouble =>
    cases trouble <;> constructor <;>
      simp [kind, cause, status, credentialsRejected, Trouble.cause]
  | unreadableToken => constructor <;> simp [kind, cause, status, credentialsRejected]
  | badHeader name fault =>
    cases fault <;> constructor <;>
      simp [kind, cause, status, credentialsRejected, HeaderFault.cause]

namespace Consistent

variable (h : failure.Consistent)

include h

theorem details_of_refused {status : Nat} (received : failure.status = some status)
    (unexpected : status ≠ 200) :
    ∃ text, failure.details = text ++ " (HTTP " ++ toString status ++ ")" := by
  have cause := h.refused.mpr ⟨status, received, unexpected⟩
  unfold details
  by_cases blamed : failure.credentialsRejected = true
  · refine ⟨"DockerHub rejected the stored credentials", ?_⟩
    simp [blamed, received, String.append_assoc, -String.reduceAppend]
  · refine ⟨failure.message, ?_⟩
    simp [blamed, cause, received, String.append_assoc]

theorem details_of_accepted (accepted : ∀ status, failure.status = some status → status = 200) :
    failure.details = failure.message := by
  have cause : failure.cause ≠ .unexpectedStatus := by
    intro cause
    obtain ⟨status, received, unexpected⟩ := h.refused.mp cause
    exact unexpected (accepted status received)
  have blamed : ¬ failure.credentialsRejected = true := fun blamed => cause (h.blames.mp blamed).2.1
  simp [details, blamed, cause]

theorem details_of_blamed (blamed : failure.credentialsRejected = true) :
    ∃ status, failure.status = some status ∧ failure.details =
      "DockerHub rejected the stored credentials (HTTP " ++ toString status ++ ")" := by
  obtain ⟨_, _, received | received⟩ := h.blames.mp blamed
  · exact ⟨401, received, by simp [details, blamed, received]; rfl⟩
  · exact ⟨403, received, by simp [details, blamed, received]; rfl⟩

end Consistent

end Failure

section Ends

variable {access : Access} {net : Network} {failure : Failure}

/-- A failed request tells of the status of its response, if there was one. -/
theorem fetchToken_failed {credentials : Credentials} {ex : Exchange String}
    (h : fetchToken access credentials net = some ex) (failed : ex.outcome = .failed failure) :
    failure.Consistent ∧ failure.status = ex.call.response?.map (·.status) := by
  have ended := fetchToken_end h
  unfold Call.response?
  generalize ex.call.ending = ending at ended ⊢
  generalize ex.outcome = outcome at ended failed
  cases ended with
  | unanswered fault expired timely =>
    obtain ⟨trouble, rfl⟩ := Outcome.ofTrouble_eq_failed failed
    exact ⟨Failure.consistent_of_ne (by simp), rfl⟩
  | refused response state unread unused status =>
    cases failed
    exact ⟨Failure.consistent_of_ne (by simp [status]), rfl⟩
  | empty response status none =>
    cases failed
    exact ⟨Failure.consistent_of_ne (by simp), congrArg some status.symm⟩
  | broken response fault expired status timely =>
    obtain ⟨trouble, rfl⟩ := Outcome.ofTrouble_eq_failed failed
    exact ⟨Failure.consistent_of_ne (by simp), congrArg some status.symm⟩
  | read response body status some =>
    cases hp : parseToken (bodyText body.chunks.flatten) with
    | none =>
      rw [hp] at failed
      cases failed
      exact ⟨Failure.consistent_of_ne (by simp), congrArg Option.some status.symm⟩
    | some token => simp [hp] at failed

theorem fetchLimits_failed {token : String} {ex : Exchange Quota}
    (h : fetchLimits access token net = some ex) (failed : ex.outcome = .failed failure) :
    failure.Consistent ∧ failure.status = ex.call.response?.map (·.status) := by
  have ended := fetchLimits_end h
  unfold Call.response?
  generalize ex.call.ending = ending at ended ⊢
  generalize ex.outcome = outcome at ended failed
  cases ended with
  | unanswered fault expired timely =>
    obtain ⟨trouble, rfl⟩ := Outcome.ofTrouble_eq_failed failed
    exact ⟨Failure.consistent_of_ne (by simp), rfl⟩
  | refused response state unread status =>
    cases failed
    exact ⟨Failure.consistent_of_ne (by simp [status]), rfl⟩
  | read response state unread status =>
    cases hq : readQuota response.headers with
    | error failure' =>
      rw [hq] at failed
      cases failed
      obtain ⟨name, fault, rfl⟩ := readQuota_error hq
      exact ⟨Failure.consistent_of_ne (by simp), congrArg some status.symm⟩
    | ok quota => simp [hq, Outcome.ofExcept] at failed

/-- The failure of an inquiry is the one of its last request, and its kind tells whether the
registry was asked. -/
theorem fetchQuota_failed {credentials : Credentials} {inquiry : Inquiry}
    (h : fetchQuota access credentials net = some inquiry)
    (failed : inquiry.outcome = .failed failure) :
    failure.Consistent ∧
      (∃ last ∈ inquiry.calls.getLast?, failure.status = last.response?.map (·.status)) ∧
      (failure.kind = .auth ↔ ∀ call ∈ inquiry.calls, call.request.method ≠ .head) := by
  obtain ⟨first, hf, ⟨hc, _, ho⟩ | ⟨token, second, _, hs, hc, _, ho⟩⟩ := fetchQuota_eq_some h
  · rcases ho with ⟨failure', hfo, ho⟩ | ⟨breakdown, _, ho⟩
    · cases Outcome.failed.inj (ho.symm.trans failed)
      obtain ⟨consistent, status⟩ := fetchToken_failed hf hfo
      have asked : first.call.request.method ≠ .head := by
        rw [fetchToken_call hf]
        simp [tokenRequest]
      exact ⟨consistent, ⟨first.call, by simp [hc], status⟩,
        iff_of_true (fetchToken_kind hf hfo) (by simp [hc, asked])⟩
    · simp [ho] at failed
  · have failed' := ho.symm.trans failed
    obtain ⟨consistent, status⟩ := fetchLimits_failed hs failed'
    have kind : failure.kind ≠ .auth := by
      rcases fetchLimits_kind hs failed' with kind | kind <;> simp [kind]
    have asked : second.call.request.method = .head := by
      rw [fetchLimits_call hs]
      rfl
    exact ⟨consistent, ⟨second.call, by simp [hc], status⟩,
      iff_of_false kind (by simp [hc, asked])⟩

end Ends

theorem Refusal.registry_message_iff {failure : Failure} : (Refusal.registry failure).message =
    "Unable to retrieve DockerHub token from DockerHub" ↔ failure.kind = .auth := by
  cases hk : failure.kind <;> simp [message, hk]

/-- How a failure is reported: with the status, where that is what failed, and with the name of the
step that failed. -/
structure Resolved.Explains (resolved : Resolved) (failure : Failure) : Prop where
  received : ∃ last ∈ resolved.calls.getLast?, failure.status = last.response?.map (·.status)
  refused : ∀ status, failure.status = some status → status ≠ 200 →
    ∃ text, (Refusal.registry failure).details = text ++ " (HTTP " ++ toString status ++ ")"
  accepted : (∀ status, failure.status = some status → status = 200) →
    (Refusal.registry failure).details = failure.message
  blamed : failure.credentialsRejected = true → ∃ status, failure.status = some status ∧
    (Refusal.registry failure).details =
      "DockerHub rejected the stored credentials (HTTP " ++ toString status ++ ")"
  step : (Refusal.registry failure).message = "Unable to retrieve DockerHub token from DockerHub" ↔
    ∀ call ∈ resolved.calls, call.request.method ≠ .head

theorem resolveStatus_explains {store : Store} {access : Access} {id : String} {net : Network}
    {resolved : Resolved} {failure : Failure}
    (h : resolveStatus store access id net = some resolved)
    (refused : resolved.resolution = .refused (.registry failure)) : resolved.Explains failure := by
  obtain ⟨credentials, inquiry, _, asked, failed, calls⟩ := resolveStatus_registry h refused
  obtain ⟨consistent, received, kind⟩ := fetchQuota_failed asked failed
  rw [← calls] at received kind
  exact ⟨received, fun _ => consistent.details_of_refused, consistent.details_of_accepted,
    consistent.details_of_blamed, Refusal.registry_message_iff.trans kind⟩

/-- A failure that a request for a token, a request for the limits or a whole inquiry ends with. -/
inductive Failure.Returned (access : Access) (net : Network) (failure : Failure) : Prop
  | token (credentials : Credentials) (ex : Exchange String)
      (h : fetchToken access credentials net = some ex) (failed : ex.outcome = .failed failure)
  | limits (token : String) (ex : Exchange Quota)
      (h : fetchLimits access token net = some ex) (failed : ex.outcome = .failed failure)
  | inquiry (credentials : Credentials) (inquiry : Inquiry)
      (h : fetchQuota access credentials net = some inquiry)
      (failed : inquiry.outcome = .failed failure)

/-- Kind, cause and status of a failure always fit together, so that its report has a status to show
where it shows one, and tells which step failed. -/
theorem returned_consistent {access : Access} {net : Network} {failure : Failure}
    (h : failure.Returned access net) :
    failure.Consistent ∧
    ∀ store id resolved, resolveStatus store access id net = some resolved →
      resolved.resolution = .refused (.registry failure) → resolved.Explains failure := by
  refine ⟨?_, fun _ _ _ => resolveStatus_explains⟩
  cases h with
  | token credentials ex h failed => exact (fetchToken_failed h failed).1
  | limits token ex h failed => exact (fetchLimits_failed h failed).1
  | inquiry credentials inquiry h failed => exact (fetchQuota_failed h failed).1

/-- A network that refuses the first request with a status. -/
def Network.refusing (status : Nat) : Network where
  replies := [.later ⟨.instant, true⟩ (.ok ⟨status, [], none⟩)]

theorem returned_consistent_outage : ∃ resolved,
    (Failure.refused .token 503).Returned {} (.refusing 503) ∧
    (Failure.refused .token 503).Consistent ∧
    resolveStatus .oneLocal {} "1" (.refusing 503) = some resolved ∧
    resolved.resolution = .refused (.registry (.refused .token 503)) ∧
    resolved.Explains (.refused .token 503) ∧
    (Refusal.registry (.refused .token 503)).details =
      "failed fetching dockerhub token (HTTP 503)" := by
  have inquired : (fetchQuota {} .anonymous (.refusing 503)).map (·.outcome) =
      some (.failed (.refused .token 503)) := by
    decide +kernel
  have ended : (resolveStatus .oneLocal {} "1" (.refusing 503)).map (·.resolution) =
      some (.refused (.registry (.refused .token 503))) := by
    decide +kernel
  obtain ⟨inquiry, asked, failed⟩ := Option.map_eq_some_iff.mp inquired
  obtain ⟨resolved, h, refused⟩ := Option.map_eq_some_iff.mp ended
  have returned : (Failure.refused .token 503).Returned {} (.refusing 503) :=
    .inquiry .anonymous inquiry asked failed
  obtain ⟨consistent, explains⟩ := returned_consistent returned
  exact ⟨resolved, returned, consistent, h, refused, explains _ _ _ h refused, by decide +kernel⟩

end PullQuota
