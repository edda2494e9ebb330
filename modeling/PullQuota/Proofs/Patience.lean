import PullQuota.Proofs.Deadlines
import PullQuota.Proofs.Settings
import PullQuota.Server

/-!
Requests that time out have had all of their time, if it is no longer than a timer can wait.
-/

namespace PullQuota

namespace Attempt

/-- The deadline of an attempt has not passed before its time. -/
def Fair (attempt : Attempt) (deadline : Nat) : Prop :=
  attempt.expired = true → deadline ≤ attempt.net.clock

section Fair

variable {attempt after : Attempt}

theorem Awaits.fire_fair {timer : Timer} {rest : List Timer}
    (h : attempt.Awaits (timer :: rest)) : (attempt.fire timer).Fair attempt.due := by
  intro expired
  simpa using h.fire.past expired

theorem Awaits.watch_fair {heedsAbort cut : Bool} {timers : List Timer}
    (h : attempt.Awaits timers) (hw : attempt.watch heedsAbort timers = some (cut, after)) :
    after.Fair attempt.due := by
  induction timers generalizing attempt with
  | nil => simp [Attempt.watch] at hw
  | cons timer rest ih =>
    simp only [Attempt.watch] at hw
    split at hw
    next => cases Option.some.inj hw; exact h.fire_fair
    next =>
      split at hw
      next => cases Option.some.inj hw; exact h.fire_fair
      next => simpa using ih h.fire hw

theorem Punctual.wait_fair {pause : Pause} {cut : Bool} (h : attempt.Punctual)
    (hw : attempt.wait pause = some (cut, after)) : after.Fair attempt.due := by
  unfold Attempt.wait at hw
  -- Without a timer the clock stands still; else the timers of the wait are in their order.
  split at hw
  next => cases Option.some.inj hw; exact h.mp
  next =>
    split at hw
    next => cases Option.some.inj hw; exact h.mp
    next => exact (h.awaits (by simp)).watch_fair hw
    next => exact (h.awaits (by simp)).watch_fair hw

theorem Punctual.receive_fair {reply : Reply} {answer : Except Fault Response}
    (h : attempt.Punctual) (hr : attempt.receive reply = some (answer, after)) :
    after.Fair attempt.due := by
  cases reply with
  | thrown fault => cases Option.some.inj hr; exact h.mp
  | later pause outcome =>
    obtain ⟨⟨cut, waited⟩, hw, hr⟩ := Option.bind_eq_some_iff.mp hr
    have fair := h.wait_fair hw
    cases cut with
    | true => cases Option.some.inj hr; exact fair
    | false =>
      cases outcome with
      | error fault => cases Option.some.inj hr; exact fair
      | ok response =>
        cases Option.some.inj hr
        simpa [Fair] using fair

theorem Punctual.send_fair {net : Network} {timeout : Rat} {request : Request}
    {answer : Except Fault Response} (h : (net.start timeout).send request = some (answer, after)) :
    after.Fair (net.clock + timerDelay timeout) := by
  have sent : ((net.start timeout).note (.sent request)).Punctual := punctual_start net timeout
  unfold Attempt.send at h
  simp only at h
  split at h
  next => cases Option.some.inj h; exact sent.mp
  next reply rest _ =>
    have ready : (((net.start timeout).note (.sent request)).withReplies rest).Punctual := sent
    exact ready.receive_fair h

theorem Punctual.read_fair {body : Body} {content : Except Fault (List UInt8)}
    (h : attempt.Punctual) (hr : attempt.read body = some (content, after)) :
    after.Fair attempt.due := by
  obtain ⟨⟨cut, waited⟩, hw, hr⟩ := Option.bind_eq_some_iff.mp hr
  have fair := h.wait_fair hw
  cases cut with
  | true => cases Option.some.inj hr; exact fair
  | false =>
    simp only [Bool.false_eq_true, if_false] at hr
    split at hr
    next => cases Option.some.inj hr; exact fair
    next => cases Option.some.inj hr; exact fair

end Fair

end Attempt

theorem Trouble.expired_of_cause {expired : Bool} {ms : Rat} {fault : Fault} {trouble : Trouble}
    (h : of? expired ms fault = some trouble) (timeout : trouble.cause = .timeout) :
    expired = true := by
  cases expired with
  | true => rfl
  | false =>
    unfold of? at h
    simp only [Bool.false_eq_true, if_false] at h
    split at h
    next => cases Option.some.inj h; cases timeout
    next =>
      obtain ⟨reason, _, rfl⟩ := Option.map_eq_some_iff.mp h
      cases timeout

def Outcome.TimesOut {α : Type} (outcome : Outcome α) : Prop :=
  ∃ failure, outcome = .failed failure ∧ failure.cause = .timeout

theorem Outcome.TimesOut.expired {α : Type} {failure : Trouble → Failure} {expired : Bool}
    {ms : Rat} {fault : Fault} (tells : Tells failure)
    (h : (ofTrouble failure (Trouble.of? expired ms fault) : Outcome α).TimesOut) :
    expired = true := by
  obtain ⟨reported, ho, cause⟩ := h
  cases ht : Trouble.of? expired ms fault with
  | none => simp [ht, ofTrouble] at ho
  | some trouble =>
    rw [ht] at ho
    cases ho
    -- The failure has the cause of its trouble, and no trouble but an expired deadline has this one.
    rw [tells.cause] at cause
    exact Trouble.expired_of_cause ht cause

/-- A way to read a response that times out only when the deadline has come. -/
def Unhurried {α : Type} (reading : Response → Attempt → Option (Reading α)) : Prop :=
  ∀ response attempt result, attempt.Punctual → reading response attempt = some result →
    result.outcome.TimesOut → attempt.due ≤ result.attempt.net.clock

theorem readLimits_unhurried : Unhurried readLimits := by
  rintro response attempt result - hr ⟨failure, ho, cause⟩
  rw [readLimits_eq] at hr
  cases Option.some.inj hr
  split at ho
  next => cases ho; cases cause
  next =>
    unfold readQuota at ho
    split at ho
    next fault _ => cases ho; cases fault <;> cases cause
    next =>
      split at ho
      next fault _ => cases ho; cases fault <;> cases cause
      next => cases ho

theorem not_timesOut_parseToken (text : String) :
    ¬ ((parseToken text).elim (.failed .unreadableToken) .done : Outcome String).TimesOut := by
  rintro ⟨failure, ho, cause⟩
  cases hp : parseToken text with
  | none => rw [hp] at ho; cases ho; cases cause
  | some token => rw [hp] at ho; cases ho

theorem readToken_unhurried (timeout : Rat) : Unhurried (readToken timeout) := by
  intro response attempt result punctual hr timesOut
  unfold readToken at hr
  split at hr
  next =>
    cases Option.some.inj hr
    obtain ⟨failure, ho, cause⟩ := timesOut
    cases ho
    cases cause
  next =>
    split at hr
    next =>
      cases Option.some.inj hr
      exact absurd timesOut (not_timesOut_parseToken "")
    next body hb =>
      obtain ⟨⟨content, after⟩, hread, hr⟩ := Option.bind_eq_some_iff.mp hr
      cases content with
      | error fault =>
        cases Option.some.inj hr
        exact punctual.read_fair hread (timesOut.expired tells_brokenToken)
      | ok bytes =>
        cases Option.some.inj hr
        exact absurd timesOut (not_timesOut_parseToken (bodyText bytes))

section Calls

variable {access : Access} {net : Network}

/-- A request that times out has waited for as long as its timer. -/
theorem Network.exchange_timesOut {α : Type} {timeout : Rat} {stage : Stage} {request : Request}
    {reading : Response → Attempt → Option (Reading α)} {ex : Exchange α}
    (unhurried : Unhurried reading) (h : net.exchange timeout stage request reading = some ex)
    (timesOut : ex.outcome.TimesOut) : net.clock + timerDelay timeout ≤ ex.network.clock := by
  rcases exchange_eq_some h with ⟨fault, attempt, hs, rfl⟩ |
    ⟨response, attempt, result, hs, hr, rfl⟩
  · simpa using Attempt.Punctual.send_fair hs (timesOut.expired (tells_unanswered stage))
  · obtain ⟨punctual, due⟩ := (Attempt.Punctual.send hs).resolve_left (by simp)
    simpa [due] using unhurried response attempt result punctual hr timesOut

theorem fetchToken_timesOut {credentials : Credentials} {ex : Exchange String}
    (h : fetchToken access credentials net = some ex) (timesOut : ex.outcome.TimesOut) :
    net.clock + timerDelay access.timeout ≤ ex.network.clock :=
  Network.exchange_timesOut (readToken_unhurried _) h timesOut

theorem fetchLimits_timesOut {token : String} {ex : Exchange Quota}
    (h : fetchLimits access token net = some ex) (timesOut : ex.outcome.TimesOut) :
    net.clock + timerDelay access.timeout ≤ ex.network.clock :=
  Network.exchange_timesOut readLimits_unhurried h timesOut

/-- An inquiry times out with its last request. -/
theorem fetchQuota_timesOut {credentials : Credentials} {inquiry : Inquiry}
    (h : fetchQuota access credentials net = some inquiry) (timesOut : inquiry.outcome.TimesOut) :
    ∃ call ∈ inquiry.calls.getLast?,
      call.time + timerDelay access.timeout ≤ inquiry.network.clock := by
  obtain ⟨failure, ho, cause⟩ := timesOut
  obtain ⟨first, hf, ⟨hc, hn, hfo⟩ | ⟨token, second, _, hs, hc, hn, hso⟩⟩ := fetchQuota_eq_some h
  · have failed : first.outcome = .failed failure := by
      rcases hfo with ⟨failure', hfo, hio⟩ | ⟨breakdown, _, hio⟩
      · cases Outcome.failed.inj (hio.symm.trans ho)
        exact hfo
      · simp [hio] at ho
    refine ⟨first.call, by simp [hc], ?_⟩
    rw [hn, fetchToken_call hf]
    exact fetchToken_timesOut hf ⟨failure, failed, cause⟩
  · refine ⟨second.call, by simp [hc], ?_⟩
    rw [hn, fetchLimits_call hs]
    exact fetchLimits_timesOut hs ⟨failure, hso.symm.trans ho, cause⟩

/-- Who waits for a whole timeout: requests that time out fail no earlier than it, and none times out
whose reply heeds the abort and is there in less. -/
structure Access.Patient (access : Access) (timeout : Nat) (net : Network) : Prop where
  token : ∀ credentials ex, fetchToken access credentials net = some ex →
    ex.outcome.TimesOut → net.clock + timeout ≤ ex.network.clock
  limits : ∀ token ex, fetchLimits access token net = some ex →
    ex.outcome.TimesOut → net.clock + timeout ≤ ex.network.clock
  inquiry : ∀ credentials inquiry, fetchQuota access credentials net = some inquiry →
    inquiry.outcome.TimesOut →
    ∃ call ∈ inquiry.calls.getLast?, call.time + timeout ≤ inquiry.network.clock
  tokenInTime : ∀ reply rest, net.replies = reply :: rest → reply.HeedsAbort →
    reply.tokenTime < timeout →
    ∀ credentials ex, fetchToken access credentials net = some ex → ¬ ex.outcome.TimesOut
  limitsInTime : ∀ reply rest, net.replies = reply :: rest → reply.HeedsAbort →
    reply.headTime < timeout →
    ∀ token ex, fetchLimits access token net = some ex → ¬ ex.outcome.TimesOut

theorem Exchange.Settles.clock_lt {α : Type} {ex : Exchange α} {timeout : ℕ} {own : ℕ∞}
    {plain : Option (Outcome α)} (h : ex.Settles net timeout own plain) (early : own < timeout) :
    ex.network.clock < net.clock + timeout := by
  have lt : (ex.network.clock : ℕ∞) < ((net.clock + timeout : ℕ) : ℕ∞) := by
    rw [h.clock, Nat.cast_add, ENat.add_lt_add_iff_left (ENat.natCast_ne_top net.clock)]
    exact lt_of_le_of_lt ((min_le_right _ _).trans (min_le_right _ _)) early
  exact_mod_cast lt

theorem Access.patient {timeout : ℕ} (given : access.timeout = timeout) (pos : 1 ≤ timeout)
    (small : timeout ≤ 2147483647) (net : Network) : access.Patient timeout net := by
  have delay : timerDelay access.timeout = timeout := given ▸ timerDelay_natCast pos small
  have token : ∀ credentials ex, fetchToken access credentials net = some ex →
      ex.outcome.TimesOut → net.clock + timeout ≤ ex.network.clock :=
    fun credentials ex h timesOut => delay ▸ fetchToken_timesOut h timesOut
  have limits : ∀ token ex, fetchLimits access token net = some ex →
      ex.outcome.TimesOut → net.clock + timeout ≤ ex.network.clock :=
    fun token ex h timesOut => delay ▸ fetchLimits_timesOut h timesOut
  refine ⟨token, limits, fun _ _ h timesOut => delay ▸ fetchQuota_timesOut h timesOut, ?_, ?_⟩
  · intro reply rest hr heeds early credentials ex h timesOut
    obtain ⟨ex', h', settles⟩ := fetchToken_settles given pos small hr heeds credentials
    cases Option.some.inj (h.symm.trans h')
    exact absurd (token credentials ex h timesOut) (not_le.mpr (settles.clock_lt early))
  · intro reply rest hr heeds early bearer ex h timesOut
    obtain ⟨ex', h', settles⟩ := fetchLimits_settles given pos small hr heeds bearer
    cases Option.some.inj (h.symm.trans h')
    exact absurd (limits bearer ex h timesOut) (not_le.mpr (settles.clock_lt early))

end Calls

/-- A network that never answers, and no caller who aborts. -/
def Network.hanging : Network where
  replies := [.later ⟨.endless, true⟩ (.error .aborted)]

/-- A timer that is to wait longer than it can goes off at once. -/
theorem timerDelay_of_large {timeout : Nat} (large : 2147483647 < timeout) :
    timerDelay timeout = 1 := by
  have upper : ¬ (timeout : Rat) ≤ 2147483647 := by
    rw [not_le]
    exact_mod_cast large
  rw [timerDelay, if_neg fun bounds => upper bounds.2]

theorem fetchToken_hanging (access : Access) (credentials : Credentials) :
    ∃ ex, fetchToken access credentials .hanging = some ex ∧ ex.outcome.TimesOut ∧
      ex.network.clock = timerDelay access.timeout := by
  have waits : Network.hanging.callerAborted = false := rfl
  have heeds : (⟨.endless, true⟩ : Pause).heedsAbort = true := rfl
  have live := Network.sending_live access.timeout (tokenRequest access.urls credentials) waits
  have race := live.wait heeds
  generalize hw : Attempt.wait _ ⟨.endless, true⟩ = waited at race
  cases race with
  | abort time caller => simp [Network.hanging] at caller
  | deadline =>
    refine ⟨_, Network.exchange_of_error (Network.send_of_cut rfl hw), ?_, ?_⟩
    · exact ⟨.unanswered .token (.timeout access.timeout), by simp [Trouble.of?, Outcome.ofTrouble],
        rfl⟩
    · simp [Network.hanging]
  | arrival finish caller due ends => simp [Span.length] at ends

namespace Server

variable {env : Variables} {server : Server} {log : List LogLine}

theorem settings_of_start (h : start env = ⟨.ok server, log⟩) :
    Settings.ofVariables env = .ok server.settings := by
  unfold start at h
  split at h
  next => cases h
  next settings hs => cases h; exact hs

/-- A service waits for the timeout that it was set up with, unless no timer can wait that long. -/
theorem patient_of_start (started : start env = ⟨.ok server, log⟩) :
    (server.settings.timeout ≤ 2147483647 →
      ∀ net, server.access.Patient server.settings.timeout net) ∧
    (2147483647 < server.settings.timeout → ∃ net : Network,
      (∀ reply ∈ net.replies, reply.HeedsAbort) ∧
        ¬ server.access.Patient server.settings.timeout net) := by
  constructor
  · intro small net
    have bounds := Settings.timeout_bounds (settings_of_start started)
    exact Access.patient rfl bounds.1 small net
  · intro large
    obtain ⟨ex, h, timesOut, clock⟩ := fetchToken_hanging server.access .anonymous
    refine ⟨.hanging, by simp [Network.hanging, Reply.HeedsAbort], fun patient => ?_⟩
    have waited := patient.token _ ex h timesOut
    have delay : timerDelay server.access.timeout = 1 := timerDelay_of_large large
    rw [clock, delay] at waited
    omega

def ofTimeout (text : String) : Variables :=
  fun name => if name = "DOCKERHUB_TIMEOUT_MS" then some text else none

theorem start_of_toOption (h : (start env).server.toOption = some server) :
    ∃ log, start env = ⟨.ok server, log⟩ := by
  cases he : start env with
  | mk result log =>
    rw [he] at h
    cases result with
    | error error => cases h
    | ok server' => cases h; exact ⟨log, rfl⟩

theorem patient_of_longest_timeout : ∃ server log,
    start (ofTimeout "2147483647") = ⟨.ok server, log⟩ ∧
    server.settings.timeout ≤ 2147483647 ∧
    ∀ net, server.access.Patient 2147483647 net := by
  have set : (start (ofTimeout "2147483647")).server.toOption.map (·.settings.timeout) =
      some 2147483647 := by
    decide +kernel
  obtain ⟨server, hs, timeout⟩ := Option.map_eq_some_iff.mp set
  obtain ⟨log, started⟩ := start_of_toOption hs
  have patient := (patient_of_start started).1 timeout.le
  rw [timeout] at patient
  exact ⟨server, log, started, timeout.le, patient⟩

end Server

/-- A network that gives a token after five milliseconds. -/
def Network.late : Network where
  replies := [.later ⟨.lasting 5, true⟩ (.ok ⟨200, [], some
    ⟨⟨.instant, true⟩, [Utf8.encode "\x7b\"token\":\"pass\"\x7d"], none, none⟩⟩)]

/-- With the next longer timeout a request fails after one millisecond, and is said to have waited for
all of the timeout. -/
theorem Server.impatient_of_longer_timeout : ∃ server log ex,
    start (ofTimeout "2147483648") = ⟨.ok server, log⟩ ∧
    server.settings.timeout = 2147483648 ∧
    (∀ reply ∈ Network.late.replies, reply.HeedsAbort ∧ reply.tokenTime < (2147483648 : ℕ)) ∧
    fetchToken server.access .anonymous .late = some ex ∧ ex.network.clock = 1 ∧
    ∃ failure, ex.outcome = .failed failure ∧ failure.cause = .timeout ∧ failure.message =
      "Request timeout: DockerHub did not respond within 2147483648ms" := by
  have ended : ((start (ofTimeout "2147483648")).server.toOption.bind fun server =>
      (fetchToken server.access .anonymous .late).map fun ex =>
        (server.settings.timeout, ex.network.clock, ex.outcome)) =
      some (2147483648, 1, .failed (.unanswered .token (.timeout 2147483648))) := by
    decide +kernel
  have intime : ∀ reply ∈ Network.late.replies,
      reply.HeedsAbort ∧ reply.tokenTime < (2147483648 : ℕ) := by
    have delay : timerDelay 5 = 5 := @timerDelay_natCast 5 (by decide) (by decide)
    intro reply mem
    cases List.mem_singleton.mp mem
    refine ⟨by simp [Reply.HeedsAbort], ?_⟩
    simp only [Reply.tokenTime, Span.length, delay, if_true, Option.elim_some, add_zero]
    norm_cast
  obtain ⟨server, hs, ended⟩ := Option.bind_eq_some_iff.mp ended
  obtain ⟨ex, h, ended⟩ := Option.map_eq_some_iff.mp ended
  obtain ⟨log, started⟩ := start_of_toOption hs
  obtain ⟨timeout, clock, outcome⟩ : _ ∧ _ ∧ _ := by simpa using ended
  refine ⟨server, log, ex, started, timeout, intime, h, clock, _, outcome, rfl, ?_⟩
  decide +kernel

end PullQuota
