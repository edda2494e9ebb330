import PullQuota.Proofs.Exchanges

/-!
The requests of an inquiry, and what each of them decides.
-/

namespace PullQuota

theorem parseToken_eq_some_iff {body token : String} :
    parseToken body = some token ↔
      ∃ members, Json.parse? body = some (.object members) ∧
        Json.memberOf "token" members = some (.string token) ∧ token ≠ "" := by
  unfold parseToken
  constructor
  · intro h
    split at h
    next token' hget =>
      split at h
      next => simp at h
      next nonempty =>
        cases Option.some.inj h
        obtain ⟨value, hp, hm⟩ := Option.bind_eq_some_iff.mp hget
        cases value with
        | object members => exact ⟨members, hp, hm, nonempty⟩
        | _ => simp [Json.get?] at hm
    next => simp at h
  · rintro ⟨members, hp, hm, nonempty⟩
    simp [hp, Json.get?, hm, nonempty]

namespace Call

/-- The answer to a call gives a token: it has status 200, its body was read to the end, and there
stands a JSON object with a token in it. -/
def Gives (call : Call) (token : String) : Prop :=
  ∃ response body members, call.ending = .delivered response .consumed ∧ response.status = 200 ∧
    response.body = some body ∧
    Json.parse? (bodyText body.chunks.flatten) = some (.object members) ∧
    Json.memberOf "token" members = some (.string token) ∧ token ≠ ""

/-- A call failed before its deadline with a fault that has no text. -/
def Untold (call : Call) (timeout : Rat) (settled : Nat) : Prop :=
  ∃ fault, call.fault? = some fault ∧ fault.text? = none ∧
    settled < call.time + timerDelay timeout

end Call

/-- A fault without a text is no abort, so that the deadline alone can tell of it. -/
theorem Timely.of?_eq_none_iff {expired : Bool} {fault : Fault} {timeout : Rat}
    {deadline time : Nat} (h : Timely expired fault deadline time) :
    Trouble.of? expired timeout fault = none ↔ fault.text? = none ∧ time < deadline := by
  rw [Trouble.of?_eq_none_iff]
  rcases h with rfl | h
  · simp [Fault.aborted, Fault.text?]
  · rw [← Bool.not_eq_true, h, not_le]
    exact and_comm

section Token

variable {access : Access} {credentials : Credentials} {net : Network} {ex : Exchange String}

theorem fetchToken_done_iff {token : String} (h : fetchToken access credentials net = some ex) :
    ex.outcome = .done token ↔ ex.call.Gives token := by
  have ended := fetchToken_end h
  unfold Call.Gives
  generalize ex.call.ending = ending at ended ⊢
  generalize ex.outcome = outcome at ended ⊢
  cases ended with
  | unanswered fault expired timely =>
    cases Trouble.of? expired access.timeout fault <;> simp [Outcome.ofTrouble]
  | refused response state unread unused status => simp [unused]
  | empty response status none => simp
  | broken response fault expired status timely =>
    cases Trouble.of? expired access.timeout fault <;> simp [Outcome.ofTrouble]
  | read response body status some =>
    have parsed : parseToken (bodyText body.chunks.flatten) = Option.some token ↔ _ :=
      parseToken_eq_some_iff
    cases hp : parseToken (bodyText body.chunks.flatten) <;> simp [hp, status, some, ← parsed]

theorem fetchToken_broken_iff {breakdown : Breakdown}
    (h : fetchToken access credentials net = some ex) :
    ex.outcome = .broken breakdown ↔
      breakdown = .untold ∧ ex.call.Untold access.timeout ex.network.clock := by
  have ended := fetchToken_end h
  have time : ex.call.time = net.clock := by rw [fetchToken_call h]
  unfold Call.Untold Call.fault?
  rw [time]
  generalize ex.call.ending = ending at ended ⊢
  generalize ex.outcome = outcome at ended ⊢
  cases ended with
  | unanswered fault expired timely =>
    simp [Outcome.ofTrouble_eq_broken_iff, timely.of?_eq_none_iff, and_comm]
  | refused response state unread unused status => cases state <;> simp at unread ⊢
  | empty response status none => simp
  | broken response fault expired status timely =>
    simp [Outcome.ofTrouble_eq_broken_iff, timely.of?_eq_none_iff, and_comm]
  | read response body status some =>
    cases parseToken (bodyText body.chunks.flatten) <;> simp

theorem fetchToken_kind {failure : Failure} (h : fetchToken access credentials net = some ex)
    (failed : ex.outcome = .failed failure) : failure.kind = .auth := by
  have ended := fetchToken_end h
  generalize ex.call.ending = ending at ended
  generalize ex.outcome = outcome at ended failed
  cases ended with
  | unanswered fault expired timely =>
    obtain ⟨trouble, rfl⟩ := Outcome.ofTrouble_eq_failed failed
    rfl
  | refused response state unread unused status => cases failed; rfl
  | empty response status none => cases failed; rfl
  | broken response fault expired status timely =>
    obtain ⟨trouble, rfl⟩ := Outcome.ofTrouble_eq_failed failed
    rfl
  | read response body status some =>
    cases hp : parseToken (bodyText body.chunks.flatten) with
    | none => rw [hp] at failed; cases failed; rfl
    | some token => simp [hp] at failed

end Token

section Limits

variable {access : Access} {token : String} {net : Network} {ex : Exchange Quota}

theorem fetchLimits_broken_iff {breakdown : Breakdown}
    (h : fetchLimits access token net = some ex) :
    ex.outcome = .broken breakdown ↔
      breakdown = .untold ∧ ex.call.Untold access.timeout ex.network.clock := by
  have ended := fetchLimits_end h
  have time : ex.call.time = net.clock := by rw [fetchLimits_call h]
  unfold Call.Untold Call.fault?
  rw [time]
  generalize ex.call.ending = ending at ended ⊢
  generalize ex.outcome = outcome at ended ⊢
  cases ended with
  | unanswered fault expired timely =>
    simp [Outcome.ofTrouble_eq_broken_iff, timely.of?_eq_none_iff, and_comm]
  | refused response state unread status => cases state <;> simp at unread ⊢
  | read response state unread status =>
    cases readQuota response.headers <;> cases state <;> simp [Outcome.ofExcept] at unread ⊢

theorem readQuota_error {headers : Headers} {failure : Failure}
    (h : readQuota headers = .error failure) : ∃ name fault, failure = .badHeader name fault := by
  unfold readQuota at h
  split at h
  next fault _ => cases h; exact ⟨limitField, fault, rfl⟩
  next =>
    split at h
    next fault _ => cases h; exact ⟨remainingField, fault, rfl⟩
    next => cases h

theorem fetchLimits_kind {failure : Failure} (h : fetchLimits access token net = some ex)
    (failed : ex.outcome = .failed failure) :
    failure.kind = .rateLimit ∨ failure.kind = .protocol := by
  have ended := fetchLimits_end h
  generalize ex.call.ending = ending at ended
  generalize ex.outcome = outcome at ended failed
  cases ended with
  | unanswered fault expired timely =>
    obtain ⟨trouble, rfl⟩ := Outcome.ofTrouble_eq_failed failed
    exact Or.inl rfl
  | refused response state unread status => cases failed; exact Or.inl rfl
  | read response state unread status =>
    cases hq : readQuota response.headers with
    | error failure' =>
      rw [hq] at failed
      cases failed
      obtain ⟨name, fault, rfl⟩ := readQuota_error hq
      exact Or.inr rfl
    | ok quota => simp [hq, Outcome.ofExcept] at failed

theorem fetchLimits_done {quota : Quota} (h : fetchLimits access token net = some ex)
    (done : ex.outcome = .done quota) :
    ∃ response, ex.call.response? = some response ∧ response.status = 200 ∧
      readQuota response.headers = .ok quota := by
  have ended := fetchLimits_end h
  unfold Call.response?
  generalize ex.call.ending = ending at ended ⊢
  generalize ex.outcome = outcome at ended done
  cases ended with
  | unanswered fault expired timely =>
    cases ht : Trouble.of? expired access.timeout fault <;> simp [ht, Outcome.ofTrouble] at done
  | refused response state unread status => cases done
  | read response state unread status =>
    cases hq : readQuota response.headers with
    | error failure => simp [hq, Outcome.ofExcept] at done
    | ok read =>
      rw [hq] at done
      cases done
      exact ⟨response, rfl, status, hq⟩

end Limits

/-- An inquiry is one exchange for a token, and one for the limits if there is a token. -/
theorem fetchQuota_eq_some {access : Access} {credentials : Credentials} {net : Network}
    {inquiry : Inquiry} (h : fetchQuota access credentials net = some inquiry) :
    ∃ first, fetchToken access credentials net = some first ∧
      ((inquiry.calls = [first.call] ∧ inquiry.network = first.network ∧
          ((∃ failure, first.outcome = .failed failure ∧ inquiry.outcome = .failed failure) ∨
            ∃ breakdown, first.outcome = .broken breakdown ∧
              inquiry.outcome = .broken breakdown)) ∨
        ∃ token second, first.outcome = .done token ∧
          fetchLimits access token first.network = some second ∧
          inquiry.calls = [first.call, second.call] ∧ inquiry.network = second.network ∧
          inquiry.outcome = second.outcome) := by
  obtain ⟨first, hf, h⟩ := Option.bind_eq_some_iff.mp h
  refine ⟨first, hf, ?_⟩
  cases ho : first.outcome with
  | failed failure =>
    rw [ho] at h
    cases Option.some.inj h
    exact Or.inl ⟨rfl, rfl, Or.inl ⟨failure, rfl, rfl⟩⟩
  | broken breakdown =>
    rw [ho] at h
    cases Option.some.inj h
    exact Or.inl ⟨rfl, rfl, Or.inr ⟨breakdown, rfl, rfl⟩⟩
  | done token =>
    rw [ho] at h
    obtain ⟨second, hs, h⟩ := Option.bind_eq_some_iff.mp h
    cases Option.some.inj h
    exact Or.inr ⟨token, second, rfl, hs, rfl, rfl, rfl⟩

/-- An inquiry logs its progress, and nothing else. -/
theorem fetchQuota_log_debug {access : Access} {credentials : Credentials} {net : Network}
    {inquiry : Inquiry} (h : fetchQuota access credentials net = some inquiry) :
    ∀ line ∈ inquiry.log, ∃ message, line = .debug message := by
  obtain ⟨first, _, h⟩ := Option.bind_eq_some_iff.mp h
  cases ho : first.outcome with
  | failed failure => rw [ho] at h; cases Option.some.inj h; simp
  | broken breakdown => rw [ho] at h; cases Option.some.inj h; simp
  | done token =>
    rw [ho] at h
    obtain ⟨second, _, h⟩ := Option.bind_eq_some_iff.mp h
    cases Option.some.inj h
    cases second.outcome <;> simp [quotaLine]

/-- A quota comes with the answer to the second request. -/
theorem fetchQuota_done {access : Access} {credentials : Credentials} {net : Network}
    {inquiry : Inquiry} {quota : Quota} (h : fetchQuota access credentials net = some inquiry)
    (done : inquiry.outcome = .done quota) :
    ∃ first second response, inquiry.calls = [first, second] ∧
      first.request = tokenRequest access.urls credentials ∧
      second.response? = some response ∧ response.status = 200 ∧
      readQuota response.headers = .ok quota := by
  obtain ⟨first, hf, ⟨_, _, ho⟩ | ⟨token, second, _, hs, hc, _, ho⟩⟩ := fetchQuota_eq_some h
  · rcases ho with ⟨failure, _, ho⟩ | ⟨breakdown, _, ho⟩ <;> simp [ho] at done
  · obtain ⟨response, hr, status, read⟩ := fetchLimits_done hs (ho.symm.trans done)
    exact ⟨first.call, second.call, response, hc, by rw [fetchToken_call hf], hr, status, read⟩

section Settled

variable {access : Access} {credentials : Credentials} {net : Network} {first : Exchange String}

theorem fetchQuota_of_no_token (hf : fetchToken access credentials net = some first)
    (refused : ∀ token, first.outcome ≠ .done token) :
    ∃ inquiry, fetchQuota access credentials net = some inquiry ∧
      inquiry.network = first.network := by
  cases ho : first.outcome with
  | done token => exact absurd ho (refused token)
  | failed failure => simp [fetchQuota, hf, ho]
  | broken breakdown => simp [fetchQuota, hf, ho]

theorem fetchQuota_of_token {token : String} {second : Exchange Quota}
    (hf : fetchToken access credentials net = some first) (ho : first.outcome = .done token)
    (hs : fetchLimits access token first.network = some second) :
    ∃ inquiry, fetchQuota access credentials net = some inquiry ∧
      inquiry.outcome = second.outcome ∧ inquiry.network = second.network := by
  simp [fetchQuota, hf, ho, hs]

end Settled

/-- The last request of an inquiry failed before its deadline with a fault that has no text. -/
def Inquiry.Untold (inquiry : Inquiry) (timeout : Rat) : Prop :=
  ∃ call ∈ inquiry.calls.getLast?, call.Untold timeout inquiry.network.clock

theorem fetchQuota_broken_iff {access : Access} {credentials : Credentials} {net : Network}
    {inquiry : Inquiry} {breakdown : Breakdown}
    (h : fetchQuota access credentials net = some inquiry) :
    inquiry.outcome = .broken breakdown ↔
      breakdown = .untold ∧ inquiry.Untold access.timeout := by
  unfold Inquiry.Untold
  obtain ⟨first, hf, ⟨hc, hn, ho⟩ | ⟨token, second, _, hs, hc, hn, ho⟩⟩ := fetchQuota_eq_some h
  · have same : inquiry.outcome = .broken breakdown ↔ first.outcome = .broken breakdown := by
      rcases ho with ⟨failure, hfo, ho⟩ | ⟨breakdown', hfo, ho⟩ <;> simp [hfo, ho]
    rw [same, fetchToken_broken_iff hf, hc, hn]
    simp
  · rw [ho, fetchLimits_broken_iff hs, hc, hn]
    simp

/-- How an inquiry goes that makes a first call and perhaps another. The registry is asked after the
token service, if that gave a token, and with this token; a failure tells whether it was asked. -/
structure Inquiry.Goes (inquiry : Inquiry) (access : Access) (credentials : Credentials)
    (net : Network) (first : Call) (rest : List Call) : Prop where
  calls : inquiry.calls = first :: rest
  atMostTwo : rest.length ≤ 1
  tokenRequest : first.request = ⟨.get, access.urls.token, ("Accept", "application/json") ::
    if credentials.authentication then [("Authorization", credentials.basicAuthorization)] else []⟩
  goesOn : rest ≠ [] ↔ ∃ token, first.Gives token
  limitsRequest : ∀ second ∈ rest, ∃ token, first.Gives token ∧
    second.request = ⟨.head, access.urls.limits, [("Authorization", "Bearer " ++ token)]⟩
  breaksDown : (∃ breakdown, inquiry.outcome = .broken breakdown) ↔ inquiry.Untold access.timeout
  tokenFails : ¬ inquiry.Untold access.timeout → rest = [] →
    ∃ ex failure, fetchToken access credentials net = some ex ∧ ex.call = first ∧
      ex.outcome = .failed failure ∧ inquiry.outcome = .failed failure ∧ failure.kind = .auth
  limitsEnd : ¬ inquiry.Untold access.timeout → rest ≠ [] →
    (∃ quota, inquiry.outcome = .done quota) ∨
      ∃ failure, inquiry.outcome = .failed failure ∧
        (failure.kind = .rateLimit ∨ failure.kind = .protocol)
  kindTells : ∀ failure, inquiry.outcome = .failed failure →
    (failure.kind = .auth ↔ rest = [])

section Goes

variable {access : Access} {credentials : Credentials} {net : Network} {inquiry : Inquiry}
  {first : Exchange String}

theorem Inquiry.goes_of_no_token (h : fetchQuota access credentials net = some inquiry)
    (hf : fetchToken access credentials net = some first) (hc : inquiry.calls = [first.call])
    (ho : (∃ failure, first.outcome = .failed failure ∧ inquiry.outcome = .failed failure) ∨
      ∃ breakdown, first.outcome = .broken breakdown ∧ inquiry.outcome = .broken breakdown) :
    inquiry.Goes access credentials net first.call [] where
  calls := hc
  atMostTwo := by simp
  tokenRequest := by
    rw [fetchToken_call hf]
    rfl
  goesOn := by
    simp only [← fetchToken_done_iff hf]
    rcases ho with ⟨failure, hfo, _⟩ | ⟨breakdown, hfo, _⟩ <;> simp [hfo]
  limitsRequest := by simp
  breaksDown := by simp [fetchQuota_broken_iff h]
  tokenFails told _ := by
    rcases ho with ⟨failure, hfo, ho⟩ | ⟨breakdown, _, ho⟩
    · exact ⟨first, failure, hf, rfl, hfo, ho, fetchToken_kind hf hfo⟩
    · exact absurd ((fetchQuota_broken_iff h).mp ho).2 told
  limitsEnd := by simp
  kindTells failure hfailed := by
    rcases ho with ⟨failure', hfo, ho⟩ | ⟨breakdown, _, ho⟩
    · cases Outcome.failed.inj (ho.symm.trans hfailed)
      simp [fetchToken_kind hf hfo]
    · simp [ho] at hfailed

theorem Inquiry.goes_of_token {token : String} {second : Exchange Quota}
    (h : fetchQuota access credentials net = some inquiry)
    (hf : fetchToken access credentials net = some first) (hd : first.outcome = .done token)
    (hs : fetchLimits access token first.network = some second)
    (hc : inquiry.calls = [first.call, second.call]) (ho : inquiry.outcome = second.outcome) :
    inquiry.Goes access credentials net first.call [second.call] where
  calls := hc
  atMostTwo := by simp
  tokenRequest := by
    rw [fetchToken_call hf]
    rfl
  goesOn := by simpa using ⟨token, (fetchToken_done_iff hf).mp hd⟩
  limitsRequest call hmem := by
    cases List.mem_singleton.mp hmem
    refine ⟨token, (fetchToken_done_iff hf).mp hd, ?_⟩
    rw [fetchLimits_call hs]
    rfl
  breaksDown := by simp [fetchQuota_broken_iff h]
  tokenFails := by simp
  limitsEnd told _ := by
    cases hso : second.outcome with
    | done quota => exact Or.inl ⟨quota, ho.trans hso⟩
    | failed failure => exact Or.inr ⟨failure, ho.trans hso, fetchLimits_kind hs hso⟩
    | broken breakdown =>
      exact absurd ((fetchQuota_broken_iff h).mp (ho.trans hso)).2 told
  kindTells failure hfailed := by
    rcases fetchLimits_kind hs (ho.symm.trans hfailed) with kind | kind <;> simp [kind]

theorem fetchQuota_goes (h : fetchQuota access credentials net = some inquiry) :
    ∃ first rest, inquiry.Goes access credentials net first rest := by
  obtain ⟨first, hf, ⟨hc, _, ho⟩ | ⟨token, second, hd, hs, hc, _, ho⟩⟩ := fetchQuota_eq_some h
  · exact ⟨first.call, [], Inquiry.goes_of_no_token h hf hc ho⟩
  · exact ⟨first.call, [second.call], Inquiry.goes_of_token h hf hd hs hc ho⟩

end Goes

/-- A network that gives a token at once, and then the limits. -/
def Network.obliging : Network where
  replies := [
    .later ⟨.instant, true⟩ (.ok ⟨200, [], some
      ⟨⟨.instant, true⟩, [Utf8.encode "\x7b\"token\":\"pass\"\x7d"], none, none⟩⟩),
    .later ⟨.instant, true⟩ (.ok ⟨200,
      [("RateLimit-Limit", "100;w=21600"), ("RateLimit-Remaining", "76")], none⟩)]

theorem fetchQuota_obliging_goes : ∃ inquiry,
    fetchQuota {} .anonymous .obliging = some inquiry ∧ inquiry.outcome = .done ⟨100, 76⟩ ∧
    ∃ first rest, inquiry.Goes {} .anonymous .obliging first rest := by
  have ended : (fetchQuota {} .anonymous .obliging).map (·.outcome) = some (.done ⟨100, 76⟩) := by
    decide +kernel
  obtain ⟨inquiry, h, ho⟩ := Option.map_eq_some_iff.mp ended
  exact ⟨inquiry, h, ho, fetchQuota_goes h⟩

/-- A network that rejects a request with a value that has no text. -/
def Network.mute : Network where
  replies := [.later ⟨.instant, true⟩ (.error (.value (.object [("toString", .null)])))]

/-- A request for a token that is rejected so is a failure of no kind. -/
theorem fetchQuota_mute_fails_without_kind : ∃ inquiry,
    fetchQuota {} .anonymous .mute = some inquiry ∧ inquiry.calls.length = 1 ∧
    ¬ ∃ failure, inquiry.outcome = .failed failure ∧ failure.kind = .auth :=
  ⟨_, rfl, rfl, by simp⟩

end PullQuota
