import PullQuota.Proofs.Exchanges
import PullQuota.Proofs.Waits

/-!
The steps of a request that gets a reply: the wait for it, and the reading of its response.
-/

namespace PullQuota

namespace Network

/-- The attempt that waits for the first of the replies. -/
def sending (net : Network) (timeout : Rat) (request : Request) : Attempt :=
  ((net.start timeout).note (.sent request)).withReplies net.replies.tail

section Sending

variable (net : Network) (timeout : Rat) (request : Request)

@[simp] theorem sending_clock : (net.sending timeout request).net.clock = net.clock :=
  net.start_clock timeout

@[simp] theorem sending_abortAt : (net.sending timeout request).net.abortAt = net.abortAt :=
  net.start_abortAt timeout

@[simp] theorem sending_replies :
    (net.sending timeout request).net.replies = net.replies.tail := rfl

@[simp] theorem sending_due :
    (net.sending timeout request).due = net.clock + timerDelay timeout := rfl

@[simp] theorem sending_expired : (net.sending timeout request).expired = false := rfl

theorem sending_live {net : Network} (waits : net.callerAborted = false) :
    (net.sending timeout request).Live where
  aborted := waits
  expired := rfl
  listening := by
    rw [sending_abortAt]
    simp [sending, start, waits, Attempt.withReplies, Attempt.note]
  caller time caller := by
    rw [sending_abortAt] at caller
    simpa [callerAborted, caller] using waits
  early := by
    rw [sending_clock, sending_due]
    exact Nat.lt_add_of_pos_right (timerDelay_pos timeout)

theorem start_send {net : Network} {reply : Reply} {rest : List Reply}
    (hr : net.replies = reply :: rest) :
    (net.start timeout).send request = (net.sending timeout request).receive reply := by
  unfold Attempt.send sending
  simp only [Attempt.note_replies, start_replies, hr, List.tail_cons]

theorem start_send_of_no_reply {net : Network} (hr : net.replies = []) :
    (net.start timeout).send request =
      some (.error (.unexpected request), (net.start timeout).note (.sent request)) := by
  unfold Attempt.send
  simp only [Attempt.note_replies, start_replies, hr]

end Sending

section Send

variable {net : Network} {timeout : Rat} {request : Request} {pause : Pause} {attempt : Attempt}
  {rest : List Reply}

/-- A request that is cut short while it waits for its reply. -/
theorem send_of_cut {outcome : Except Fault Response}
    (hr : net.replies = .later pause outcome :: rest)
    (hw : (net.sending timeout request).wait pause = some (true, attempt)) :
    (net.start timeout).send request = some (.error .aborted, attempt) := by
  rw [start_send _ _ hr]
  exact Option.bind_eq_some_iff.mpr ⟨(true, attempt), hw, rfl⟩

theorem send_of_error {fault : Fault}
    (hr : net.replies = .later pause (.error fault) :: rest)
    (hw : (net.sending timeout request).wait pause = some (false, attempt)) :
    (net.start timeout).send request = some (.error fault, attempt) := by
  rw [start_send _ _ hr]
  exact Option.bind_eq_some_iff.mpr ⟨(false, attempt), hw, rfl⟩

theorem send_of_ok {response : Response}
    (hr : net.replies = .later pause (.ok response) :: rest)
    (hw : (net.sending timeout request).wait pause = some (false, attempt)) :
    (net.start timeout).send request = some (.ok response, attempt.deliver response) := by
  rw [start_send _ _ hr]
  exact Option.bind_eq_some_iff.mpr ⟨(false, attempt), hw, rfl⟩

end Send

end Network

theorem Attempt.Live.arrive {attempt : Attempt} {finish : ℕ} (h : attempt.Live)
    (caller : ∀ time, attempt.net.abortAt = some time → finish < time)
    (due : finish < attempt.due) : (attempt.fire ⟨finish, .arrival⟩).Live where
  aborted := h.aborted
  expired := h.expired
  listening := h.listening
  caller := caller
  early := due

theorem Attempt.Live.deliver {attempt : Attempt} (h : attempt.Live) (response : Response) :
    (attempt.deliver response).Live := by
  unfold Attempt.deliver
  cases response.body.isSome with
  | false => exact h
  | true => exact ⟨h.aborted, h.expired, h.listening, h.caller, h.early⟩

theorem Attempt.Live.wait_instant {attempt : Attempt} (h : attempt.Live) :
    attempt.wait ⟨.instant, true⟩ = some (false, attempt) := by
  simp [Attempt.wait, h.aborted]

theorem readLimits_eq (attempt : Attempt) (response : Response) : readLimits response attempt =
    some ⟨if response.status ≠ 200 then .failed (.refused .limits response.status)
      else .ofExcept (readQuota response.headers), .unread, attempt⟩ := by
  unfold readLimits
  split <;> rfl

section ReadToken

variable {timeout : Rat} {response : Response} {attempt after : Attempt} {body : Body}

theorem readToken_of_refused (h : response.status ≠ 200) : readToken timeout response attempt =
    some ⟨.failed (.refused .token response.status), .unread, attempt⟩ := by
  rw [readToken, if_pos h]

theorem readToken_of_empty (h : response.status = 200) (hb : response.body = none) :
    readToken timeout response attempt =
      some ⟨(parseToken "").elim (.failed .unreadableToken) .done, .absent, attempt⟩ := by
  rw [readToken, if_neg (not_not.mpr h), hb]

theorem readToken_of_error {fault : Fault} (h : response.status = 200)
    (hb : response.body = some body) (hr : attempt.read body = some (.error fault, after)) :
    readToken timeout response attempt =
      some ⟨.ofTrouble .brokenToken (Trouble.of? after.expired timeout fault), .errored fault,
        after⟩ := by
  rw [readToken, if_neg (not_not.mpr h), hb]
  exact Option.bind_eq_some_iff.mpr ⟨(.error fault, after), hr, rfl⟩

theorem readToken_of_ok {bytes : List UInt8} (h : response.status = 200)
    (hb : response.body = some body) (hr : attempt.read body = some (.ok bytes, after)) :
    readToken timeout response attempt =
      some ⟨(parseToken (bodyText bytes)).elim (.failed .unreadableToken) .done, .consumed,
        after⟩ := by
  rw [readToken, if_neg (not_not.mpr h), hb]
  exact Option.bind_eq_some_iff.mpr ⟨(.ok bytes, after), hr, rfl⟩

theorem Attempt.read_of_cut (hw : attempt.wait body.pause = some (true, after)) :
    attempt.read body = some (.error .aborted, after.note .bodyClosed) :=
  Option.bind_eq_some_iff.mpr ⟨(true, after), hw, rfl⟩

theorem Attempt.read_of_failure {fault : Fault} (hf : body.failure = some fault)
    (hw : attempt.wait body.pause = some (false, after)) :
    attempt.read body = some (.error fault, after.note .bodyClosed) :=
  Option.bind_eq_some_iff.mpr ⟨(false, after), hw, by simp [hf]⟩

theorem Attempt.read_of_end (hf : body.failure = none)
    (hw : attempt.wait body.pause = some (false, after)) :
    attempt.read body = some (.ok body.chunks.flatten, after.note .bodyClosed) :=
  Option.bind_eq_some_iff.mpr ⟨(false, after), hw, by simp [hf]⟩

end ReadToken

end PullQuota
