import PullQuota.Proofs.Exchanges

/-!
Which reply each request is given: the requests of a run use up the replies one by one, in order.
-/

namespace PullQuota

/-- How a call ends that was given a reply, or none. -/
inductive Ending.Follows : Option Reply → Ending → Prop
  | unexpected (request : Request) : Follows none (.failed (.unexpected request))
  | thrown (fault : Fault) : Follows (some (.thrown fault)) (.failed fault)
  | aborted (pause : Pause) (outcome : Except Fault Response) :
      Follows (some (.later pause outcome)) (.failed .aborted)
  | failed (pause : Pause) (fault : Fault) :
      Follows (some (.later pause (.error fault))) (.failed fault)
  | delivered (pause : Pause) (response : Response) (body : BodyState) :
      Follows (some (.later pause (.ok response))) (.delivered response body)

/-- The ending of a call that was given an answer. -/
def Ending.ofAnswer (body : BodyState) : Except Fault Response → Ending
  | .error fault => .failed fault
  | .ok response => .delivered response body

namespace Attempt

variable {attempt after : Attempt}

theorem watch_replies {heedsAbort cut : Bool} {timers : List Timer}
    (h : attempt.watch heedsAbort timers = some (cut, after)) :
    after.net.replies = attempt.net.replies := by
  induction timers generalizing attempt with
  | nil => cases h
  | cons timer rest ih =>
    unfold watch at h
    dsimp only at h
    split at h
    next => cases Option.some.inj h; exact attempt.fire_replies timer
    next =>
      split at h
      next => cases Option.some.inj h; exact attempt.fire_replies timer
      next => exact (ih h).trans (attempt.fire_replies timer)

theorem wait_replies {pause : Pause} {cut : Bool} (h : attempt.wait pause = some (cut, after)) :
    after.net.replies = attempt.net.replies := by
  unfold wait at h
  split at h
  next => cases Option.some.inj h; rfl
  next =>
    split at h
    next => cases Option.some.inj h; rfl
    next => exact watch_replies h
    next => exact watch_replies h

theorem read_replies {body : Body} {content : Except Fault (List UInt8)}
    (h : attempt.read body = some (content, after)) :
    after.net.replies = attempt.net.replies := by
  obtain ⟨⟨cut, waited⟩, hw, h⟩ := Option.bind_eq_some_iff.mp h
  have kept := wait_replies hw
  dsimp only at h
  split at h
  next => cases Option.some.inj h; exact kept
  next =>
    split at h
    next => cases Option.some.inj h; exact kept
    next => cases Option.some.inj h; exact kept

/-- An answer follows from its reply, and leaves the other replies as they are. -/
theorem receive_follows {reply : Reply} {answer : Except Fault Response}
    (h : attempt.receive reply = some (answer, after)) (body : BodyState) :
    (Ending.ofAnswer body answer).Follows (some reply) ∧
      after.net.replies = attempt.net.replies := by
  cases reply with
  | thrown fault => cases Option.some.inj h; exact ⟨.thrown fault, rfl⟩
  | later pause outcome =>
    obtain ⟨⟨cut, waited⟩, hw, h⟩ := Option.bind_eq_some_iff.mp h
    have kept := wait_replies hw
    cases cut with
    | true => cases Option.some.inj h; exact ⟨.aborted pause outcome, kept⟩
    | false =>
      cases outcome with
      | error fault => cases Option.some.inj h; exact ⟨.failed pause fault, kept⟩
      | ok response =>
        cases Option.some.inj h
        exact ⟨.delivered pause response body, (waited.deliver_replies response).trans kept⟩

theorem send_follows {net : Network} {timeout : Rat} {request : Request}
    {answer : Except Fault Response} (h : (net.start timeout).send request = some (answer, after))
    (body : BodyState) :
    (Ending.ofAnswer body answer).Follows net.replies.head? ∧
      after.net.replies = net.replies.tail := by
  unfold Attempt.send at h
  simp only [note_replies, Network.start_replies] at h
  split at h
  next none =>
    cases Option.some.inj h
    rw [none]
    exact ⟨.unexpected request, by simp [none]⟩
  next reply rest some =>
    rw [some]
    exact receive_follows h body

end Attempt

/-- Calls of a run that are given the first replies in their order; the others are left for the
calls after them. -/
structure Network.Draws (net : Network) (calls : List Call) (after : Network) : Prop where
  given : ∀ (i : Nat) (call : Call), calls[i]? = some call →
    call.ending.Follows net.replies[i]?
  left : after.replies = net.replies.drop calls.length

namespace Network

theorem draws_nil {net after : Network} (same : after.replies = net.replies) :
    net.Draws [] after :=
  ⟨by simp, same⟩

theorem Draws.append {first second third : Network} {calls later : List Call}
    (h : first.Draws calls second) (h' : second.Draws later third) :
    first.Draws (calls ++ later) third where
  given i call mem := by
    rcases Nat.lt_or_ge i calls.length with early | late
    · rw [List.getElem?_append_left early] at mem
      exact h.given i call mem
    · rw [List.getElem?_append_right late] at mem
      have given := h'.given _ call mem
      rwa [h.left, List.getElem?_drop, Nat.add_sub_cancel' late] at given
  left := by rw [h'.left, h.left, List.drop_drop, List.length_append]

theorem exchange_draws {α : Type} {net : Network} {timeout : Rat} {stage : Stage}
    {request : Request} {reading : Response → Attempt → Option (Reading α)} {ex : Exchange α}
    (keeps : ∀ response attempt result, reading response attempt = some result →
      result.attempt.net.replies = attempt.net.replies)
    (h : net.exchange timeout stage request reading = some ex) :
    net.Draws [ex.call] ex.network := by
  have single {ending : Ending} {after : Network} (follows : ending.Follows net.replies.head?)
      (left : after.replies = net.replies.tail) :
      net.Draws [⟨request, net.clock, net.callerAborted, ending⟩] after := by
    refine ⟨fun i call mem => ?_, by simpa using left⟩
    obtain ⟨rfl, rfl⟩ : i = 0 ∧ _ = call := by
      simpa [List.getElem?_singleton] using mem
    rwa [← List.head?_eq_getElem?]
  rcases exchange_eq_some h with ⟨fault, attempt, hs, rfl⟩ |
    ⟨response, attempt, result, hs, hr, rfl⟩
  · obtain ⟨follows, left⟩ := Attempt.send_follows hs .absent
    exact single follows (by simpa using left)
  · obtain ⟨follows, left⟩ := Attempt.send_follows hs
      (result.attempt.clear.release response result.body).1
    exact single follows (by simpa [keeps response attempt result hr] using left)

end Network

theorem readToken_replies {timeout : Rat} (response : Response) (attempt : Attempt)
    (result : Reading String) (h : readToken timeout response attempt = some result) :
    result.attempt.net.replies = attempt.net.replies := by
  unfold readToken at h
  split at h
  next => cases Option.some.inj h; rfl
  next =>
    split at h
    next => cases Option.some.inj h; rfl
    next =>
      obtain ⟨⟨content, after⟩, read, h⟩ := Option.bind_eq_some_iff.mp h
      have kept := Attempt.read_replies read
      cases content with
      | error fault => cases Option.some.inj h; exact kept
      | ok bytes => cases Option.some.inj h; exact kept

theorem readLimits_replies (response : Response) (attempt : Attempt) (result : Reading Quota)
    (h : readLimits response attempt = some result) :
    result.attempt.net.replies = attempt.net.replies := by
  unfold readLimits at h
  split at h
  next => cases Option.some.inj h; rfl
  next => cases Option.some.inj h; rfl

section Draws

variable {access : Access} {net : Network}

theorem fetchToken_draws {credentials : Credentials} {ex : Exchange String}
    (h : fetchToken access credentials net = some ex) : net.Draws [ex.call] ex.network :=
  Network.exchange_draws readToken_replies h

theorem fetchLimits_draws {token : String} {ex : Exchange Quota}
    (h : fetchLimits access token net = some ex) : net.Draws [ex.call] ex.network :=
  Network.exchange_draws readLimits_replies h

end Draws

end PullQuota
