import PullQuota.Proofs.Alarms
import PullQuota.Registry.Inquiry

/-!
What an exchange came to, read off its outcome and its call.
-/

namespace PullQuota

namespace Network

variable {α : Type} {net : Network} {timeout : Rat} {stage : Stage} {request : Request}
  {reading : Response → Attempt → Option (Reading α)} {ex : Exchange α}

theorem exchange_eq_some (h : net.exchange timeout stage request reading = some ex) :
    (∃ fault attempt, (net.start timeout).send request = some (.error fault, attempt) ∧
      ex = ⟨.ofTrouble (.unanswered stage) (Trouble.of? attempt.expired timeout fault),
        ⟨request, net.clock, net.callerAborted, .failed fault⟩, attempt.clear⟩) ∨
    (∃ response attempt result,
      (net.start timeout).send request = some (.ok response, attempt) ∧
      reading response attempt = some result ∧
      ex = ⟨result.outcome,
        ⟨request, net.clock, net.callerAborted,
          .delivered response (result.attempt.clear.release response result.body).1⟩,
        (result.attempt.clear.release response result.body).2⟩) := by
  obtain ⟨⟨answer, attempt⟩, hs, h⟩ := Option.bind_eq_some_iff.mp h
  cases answer with
  | error fault => exact Or.inl ⟨fault, attempt, hs, (Option.some.inj h).symm⟩
  | ok response =>
    obtain ⟨result, hr, h⟩ := Option.bind_eq_some_iff.mp h
    exact Or.inr ⟨response, attempt, result, hs, hr, (Option.some.inj h).symm⟩

theorem exchange_of_error {attempt : Attempt} {fault : Fault}
    (h : (net.start timeout).send request = some (.error fault, attempt)) :
    net.exchange timeout stage request reading =
      some ⟨.ofTrouble (.unanswered stage) (Trouble.of? attempt.expired timeout fault),
        ⟨request, net.clock, net.callerAborted, .failed fault⟩, attempt.clear⟩ :=
  Option.bind_eq_some_iff.mpr ⟨(.error fault, attempt), h, rfl⟩

theorem exchange_of_ok {attempt : Attempt} {response : Response} {result : Reading α}
    (h : (net.start timeout).send request = some (.ok response, attempt))
    (hr : reading response attempt = some result) :
    net.exchange timeout stage request reading =
      some ⟨result.outcome, ⟨request, net.clock, net.callerAborted,
        .delivered response (result.attempt.clear.release response result.body).1⟩,
        (result.attempt.clear.release response result.body).2⟩ :=
  Option.bind_eq_some_iff.mpr
    ⟨(.ok response, attempt), h, Option.bind_eq_some_iff.mpr ⟨result, hr, rfl⟩⟩

end Network

/-- Whether a deadline has passed by a time, as far as a fault tells: an abort may come at the very
time of the deadline, and before it. -/
def Timely (expired : Bool) (fault : Fault) (deadline time : Nat) : Prop :=
  fault = .aborted ∨ (expired = true ↔ deadline ≤ time)

namespace Attempt

variable {attempt after : Attempt}

theorem Punctual.timely {due : Nat} (h : attempt.Punctual) (hd : attempt.due = due)
    (fault : Fault) : Timely attempt.expired fault due attempt.net.clock :=
  Or.inr (hd ▸ h)

theorem punctual_start (net : Network) (timeout : Rat) : (net.start timeout).Punctual := by
  have positive := timerDelay_pos timeout
  unfold Punctual Network.start
  cases net.abortAt.isSome && !net.callerAborted <;>
    simp [Network.note, Nat.pos_iff_ne_zero.mp positive]

/-- When a reply has come the deadline has passed if its time has come, unless an abort cut the
request short. -/
theorem Punctual.receive {reply : Reply} {answer : Except Fault Response} (h : attempt.Punctual)
    (hr : attempt.receive reply = some (answer, after)) :
    (answer = .error .aborted ∨ after.Punctual ∧ after.due = attempt.due) := by
  cases reply with
  | thrown fault => cases Option.some.inj hr; exact Or.inr ⟨h, rfl⟩
  | later pause outcome =>
    obtain ⟨⟨cut, waited⟩, hw, hr⟩ := Option.bind_eq_some_iff.mp hr
    cases cut with
    | true => cases Option.some.inj hr; exact Or.inl rfl
    | false =>
      have done := h.wait hw
      cases outcome with
      | error fault => cases Option.some.inj hr; exact Or.inr done
      | ok response =>
        cases Option.some.inj hr
        refine Or.inr ?_
        unfold deliver
        cases response.body.isSome <;> exact done

theorem Punctual.send {net : Network} {timeout : Rat} {request : Request}
    {answer : Except Fault Response} (h : (net.start timeout).send request = some (answer, after)) :
    answer = .error .aborted ∨
      after.Punctual ∧ after.due = net.clock + timerDelay timeout := by
  have sent : ((net.start timeout).note (.sent request)).Punctual := punctual_start net timeout
  unfold Attempt.send at h
  simp only at h
  split at h
  next => cases Option.some.inj h; exact Or.inr ⟨sent, rfl⟩
  next reply rest _ =>
    have ready : (((net.start timeout).note (.sent request)).withReplies rest).Punctual := sent
    exact ready.receive h

theorem Punctual.read {body : Body} {content : Except Fault (List UInt8)} (h : attempt.Punctual)
    (hr : attempt.read body = some (content, after)) :
    content = .error .aborted ∨ after.Punctual ∧ after.due = attempt.due := by
  obtain ⟨⟨cut, waited⟩, hw, hr⟩ := Option.bind_eq_some_iff.mp hr
  cases cut with
  | true => cases Option.some.inj hr; exact Or.inl rfl
  | false =>
    have done := h.wait hw
    simp only [Bool.false_eq_true, if_false] at hr
    split at hr
    next => cases Option.some.inj hr; exact Or.inr done
    next => cases Option.some.inj hr; exact Or.inr done

theorem content_of_read {body : Body} {bytes : List UInt8}
    (hr : attempt.read body = some (.ok bytes, after)) : bytes = body.chunks.flatten := by
  obtain ⟨⟨cut, waited⟩, hw, hr⟩ := Option.bind_eq_some_iff.mp hr
  cases cut with
  | true => cases Option.some.inj hr
  | false =>
    simp only [Bool.false_eq_true, if_false] at hr
    split at hr
    next => cases Option.some.inj hr
    next => cases Option.some.inj hr; rfl

end Attempt

/-- How an exchange for a token may end: what its call came to, and its outcome. -/
inductive TokenEnd (timeout : Rat) (deadline time : Nat) : Ending → Outcome String → Prop
  | unanswered (fault : Fault) (expired : Bool) (timely : Timely expired fault deadline time) :
      TokenEnd timeout deadline time (.failed fault)
        (.ofTrouble (.unanswered .token) (Trouble.of? expired timeout fault))
  | refused (response : Response) (state : BodyState) (unread : ∀ fault, state ≠ .errored fault)
      (unused : state ≠ .consumed) (status : response.status ≠ 200) :
      TokenEnd timeout deadline time (.delivered response state)
        (.failed (.refused .token response.status))
  | empty (response : Response) (status : response.status = 200) (none : response.body = none) :
      TokenEnd timeout deadline time (.delivered response .absent) (.failed .unreadableToken)
  | broken (response : Response) (fault : Fault) (expired : Bool) (status : response.status = 200)
      (timely : Timely expired fault deadline time) :
      TokenEnd timeout deadline time (.delivered response (.errored fault))
        (.ofTrouble .brokenToken (Trouble.of? expired timeout fault))
  | read (response : Response) (body : Body) (status : response.status = 200)
      (some : response.body = some body) :
      TokenEnd timeout deadline time (.delivered response .consumed)
        ((parseToken (bodyText body.chunks.flatten)).elim (.failed .unreadableToken) .done)

/-- How an exchange for the limits may end. -/
inductive LimitsEnd (timeout : Rat) (deadline time : Nat) : Ending → Outcome Quota → Prop
  | unanswered (fault : Fault) (expired : Bool) (timely : Timely expired fault deadline time) :
      LimitsEnd timeout deadline time (.failed fault)
        (.ofTrouble (.unanswered .limits) (Trouble.of? expired timeout fault))
  | refused (response : Response) (state : BodyState) (unread : ∀ fault, state ≠ .errored fault)
      (status : response.status ≠ 200) :
      LimitsEnd timeout deadline time (.delivered response state)
        (.failed (.refused .limits response.status))
  | read (response : Response) (state : BodyState) (unread : ∀ fault, state ≠ .errored fault)
      (status : response.status = 200) :
      LimitsEnd timeout deadline time (.delivered response state)
        (.ofExcept (readQuota response.headers))

theorem Network.release_unread (net : Network) (response : Response) :
    (net.release response .unread).1 = .cancelled ∨ (net.release response .unread).1 = .absent := by
  unfold release
  cases response.body <;> simp [Body.cancel]

section Ends

variable {access : Access} {net : Network}

theorem fetchToken_call {credentials : Credentials} {ex : Exchange String}
    (h : fetchToken access credentials net = some ex) :
    ex.call = ⟨tokenRequest access.urls credentials, net.clock, net.callerAborted,
      ex.call.ending⟩ := by
  rcases Network.exchange_eq_some h with ⟨_, _, _, rfl⟩ | ⟨_, _, _, _, _, rfl⟩ <;> rfl

theorem fetchLimits_call {token : String} {ex : Exchange Quota}
    (h : fetchLimits access token net = some ex) :
    ex.call = ⟨limitsRequest access.urls token, net.clock, net.callerAborted,
      ex.call.ending⟩ := by
  rcases Network.exchange_eq_some h with ⟨_, _, _, rfl⟩ | ⟨_, _, _, _, _, rfl⟩ <;> rfl

theorem fetchToken_end {credentials : Credentials} {ex : Exchange String}
    (h : fetchToken access credentials net = some ex) :
    TokenEnd access.timeout (net.clock + timerDelay access.timeout) ex.network.clock
      ex.call.ending ex.outcome := by
  rcases Network.exchange_eq_some h with ⟨fault, attempt, hs, rfl⟩ |
    ⟨response, attempt, result, hs, hr, rfl⟩
  · refine .unanswered fault attempt.expired ?_
    rcases Attempt.Punctual.send hs with aborted | ⟨punctual, due⟩
    · exact Or.inl (Except.error.inj aborted)
    · simpa using punctual.timely due fault
  · obtain ⟨punctual, due⟩ := (Attempt.Punctual.send hs).resolve_left (by simp)
    unfold readToken at hr
    split at hr
    next status =>
      cases Option.some.inj hr
      rcases Network.release_unread attempt.clear response with state | state <;>
        exact .refused response _ (by simp [state]) (by simp [state]) status
    next status =>
      have status := not_not.mp status
      split at hr
      next hb =>
        cases Option.some.inj hr
        exact .empty response status hb
      next body hb =>
        obtain ⟨⟨content, after⟩, hread, hr⟩ := Option.bind_eq_some_iff.mp hr
        cases content with
        | error fault =>
          cases Option.some.inj hr
          refine .broken response fault after.expired status ?_
          rcases punctual.read hread with aborted | ⟨punctual', due'⟩
          · exact Or.inl (Except.error.inj aborted)
          · simpa using punctual'.timely (due'.trans due) fault
        | ok bytes =>
          cases Option.some.inj hr
          cases Attempt.content_of_read hread
          exact .read response body status hb

theorem fetchLimits_end {token : String} {ex : Exchange Quota}
    (h : fetchLimits access token net = some ex) :
    LimitsEnd access.timeout (net.clock + timerDelay access.timeout) ex.network.clock
      ex.call.ending ex.outcome := by
  rcases Network.exchange_eq_some h with ⟨fault, attempt, hs, rfl⟩ |
    ⟨response, attempt, result, hs, hr, rfl⟩
  · refine .unanswered fault attempt.expired ?_
    rcases Attempt.Punctual.send hs with aborted | ⟨punctual, due⟩
    · exact Or.inl (Except.error.inj aborted)
    · simpa using punctual.timely due fault
  · unfold readLimits at hr
    split at hr
    next status =>
      cases Option.some.inj hr
      rcases Network.release_unread attempt.clear response with state | state <;>
        exact .refused response _ (by simp [state]) status
    next status =>
      cases Option.some.inj hr
      rcases Network.release_unread attempt.clear response with state | state <;>
        exact .read response _ (by simp [state]) (not_not.mp status)

end Ends

end PullQuota
