import PullQuota.Proofs.Counting
import PullQuota.Proofs.Inquiries
import PullQuota.Proofs.Sending

/-!
When requests settle whose replies heed the abort, and with what.
-/

namespace PullQuota

/-- The time until the caller aborts. -/
def Network.untilAbort (net : Network) : ℕ∞ :=
  net.abortAt.elim ⊤ fun time => ((time - net.clock : Nat) : ℕ∞)

/-- The same response without a wait for its body. -/
def Response.prompt (response : Response) : Response :=
  { response with body := response.body.map fun body => { body with pause := ⟨.instant, true⟩ } }

namespace Reply

/-- Every wait for a reply and its body ends when the request is aborted. -/
def HeedsAbort : Reply → Prop
  | thrown _ => False
  | later pause (.error _) => pause.heedsAbort = true
  | later pause (.ok response) =>
    pause.heedsAbort = true ∧ ∀ body ∈ response.body, body.pause.heedsAbort = true

/-- The time until a reply is there, without its body. -/
def headTime : Reply → ℕ∞
  | thrown _ => 0
  | later pause _ => pause.span.length

/-- The time until a reply to a token request is there: of status 200 the body counts too. -/
def tokenTime : Reply → ℕ∞
  | later pause (.ok response) =>
    pause.span.length +
      if response.status = 200 then response.body.elim 0 (·.pause.span.length) else 0
  | reply => reply.headTime

/-- The same reply without any wait. -/
def prompt : Reply → Reply
  | thrown fault => thrown fault
  | later _ outcome => later ⟨.instant, true⟩ (outcome.map Response.prompt)

end Reply

/-- A request settles with the first of three: its caller's abort, its deadline, and its own end,
with the outcome that it would come to there. -/
structure Exchange.Settles {α : Type} (ex : Exchange α) (net : Network) (timeout : Nat)
    (own : ℕ∞) (plain : Option (Outcome α)) : Prop where
  clock : (ex.network.clock : ℕ∞) = net.clock + min net.untilAbort (min timeout own)
  aborted : net.untilAbort ≤ timeout ∧ net.untilAbort ≤ own →
    ∃ failure, ex.outcome = .failed failure ∧ failure.cause = .transport ∧
      failure.message = "Request aborted"
  expired : ¬ (net.untilAbort ≤ timeout ∧ net.untilAbort ≤ own) → timeout ≤ own →
    ∃ failure, ex.outcome = .failed failure ∧ failure.cause = .timeout ∧
      failure.message =
        "Request timeout: DockerHub did not respond within " ++ toString timeout ++ "ms"
  ended : ¬ (net.untilAbort ≤ timeout ∧ net.untilAbort ≤ own) → own < timeout →
    plain = some ex.outcome
  caller : ex.network.abortAt = net.abortAt
  replies : ex.network.replies = net.replies.tail

theorem timerDelay_natCast {timeout : Nat} (pos : 1 ≤ timeout) (small : timeout ≤ 2147483647) :
    timerDelay timeout = timeout := by
  have lower : (1 : Rat) ≤ timeout := by exact_mod_cast pos
  have upper : (timeout : Rat) ≤ 2147483647 := by exact_mod_cast small
  have whole : (timeout : Rat).floor = timeout := by
    exact_mod_cast Rat.floor_intCast timeout
  rw [timerDelay, if_pos ⟨lower, upper⟩, whole, Int.toNat_natCast]

theorem Trouble.timeout_message {timeout : Nat} (small : timeout ≤ 2147483647) :
    (Trouble.timeout timeout).message =
      "Request timeout: DockerHub did not respond within " ++ toString timeout ++ "ms" := by
  have count : timeout ≤ Number.maxCount := small.trans (by decide)
  rw [← Number.text_natCast count]
  rfl

namespace Network

variable {net : Network}

theorem untilAbort_of_abortAt {span : ℕ} (h : net.abortAt = some (net.clock + span)) :
    net.untilAbort = span := by
  rw [untilAbort, h, Option.elim_some, Nat.add_sub_cancel_left]

theorem untilAbort_of_callerAborted (h : net.callerAborted = true) :
    net.untilAbort = (0 : ℕ) := by
  unfold callerAborted at h
  unfold untilAbort
  cases ha : net.abortAt with
  | none => simp [ha] at h
  | some time =>
    have past : time ≤ net.clock := by simpa [ha] using h
    simp only [Option.elim_some, Nat.cast_inj]
    omega

theorem lt_untilAbort_iff {n : Nat} :
    (n : ℕ∞) < net.untilAbort ↔ ∀ time, net.abortAt = some time → net.clock + n < time := by
  unfold untilAbort
  cases net.abortAt with
  | none => simp
  | some time =>
    simp only [Option.elim_some, Option.some.injEq, forall_eq', Nat.cast_lt]
    omega

variable {timeout : Rat} {request : Request} {span : ℕ}

theorem sending_live_of_lt (caller : span < net.untilAbort) :
    (net.sending timeout request).Live := by
  refine sending_live timeout request (Bool.eq_false_of_not_eq_true fun aborted => ?_)
  rw [untilAbort_of_callerAborted aborted, Nat.cast_lt] at caller
  exact Nat.not_lt_zero span caller

/-- What arrives before the deadline and before the caller aborts finds nothing aborted. -/
theorem sending_arrive (due : span < timerDelay timeout) (caller : span < net.untilAbort) :
    ((net.sending timeout request).fire ⟨net.clock + span, .arrival⟩).Live := by
  refine (sending_live_of_lt caller).arrive ?_ (Nat.add_lt_add_left due net.clock)
  rw [sending_abortAt]
  exact lt_untilAbort_iff.mp caller

end Network

/-- Two ends of spans that begin at the same time are compared by their lengths. -/
theorem natCast_add_le_iff {start span : ℕ} {length : ℕ∞} :
    ((start + span : ℕ) : ℕ∞) ≤ start + length ↔ span ≤ length := by
  rw [Nat.cast_add, ENat.add_le_add_iff_left (ENat.natCast_ne_top start)]

theorem exists_of_add_eq_natCast {start finish : ℕ} {length : ℕ∞}
    (h : start + length = finish) : ∃ span : ℕ, length = span ∧ finish = start + span := by
  cases length with
  | top => simp at h
  | coe span => exact ⟨span, rfl, by exact_mod_cast h.symm⟩

/-- A failure that is told like the trouble that led to it. -/
structure Tells (failure : Trouble → Failure) : Prop where
  cause : ∀ trouble, (failure trouble).cause = trouble.cause
  message : ∀ trouble, (failure trouble).message = trouble.message

theorem tells_unanswered (stage : Stage) : Tells (.unanswered stage) :=
  ⟨fun _ => rfl, fun _ => rfl⟩

theorem tells_brokenToken : Tells .brokenToken :=
  ⟨fun _ => rfl, fun _ => rfl⟩

namespace Exchange.Settles

variable {α : Type} {ex : Exchange α} {net : Network} {timeout : Nat} {own : ℕ∞}
  {plain : Option (Outcome α)}

theorem of_abort {time : ℕ} {failure : Trouble → Failure} (tells : Tells failure)
    (abort : net.untilAbort = time) (due : time ≤ timeout)
    (before : time ≤ own) (clock : ex.network.clock = net.clock + time)
    (outcome : ex.outcome = .ofTrouble failure (Trouble.of? false timeout .aborted))
    (caller : ex.network.abortAt = net.abortAt) (replies : ex.network.replies = net.replies.tail) :
    ex.Settles net timeout own plain where
  clock := by
    have first : (time : ℕ∞) ≤ min (timeout : ℕ∞) own := le_min (by exact_mod_cast due) before
    rw [abort, min_eq_left first, clock, Nat.cast_add]
  aborted _ := ⟨failure .aborted, outcome, tells.cause _, tells.message _⟩
  expired early := absurd ⟨by rw [abort]; exact_mod_cast due, abort ▸ before⟩ early
  ended early := absurd ⟨by rw [abort]; exact_mod_cast due, abort ▸ before⟩ early
  caller := caller
  replies := replies

theorem of_deadline {failure : Trouble → Failure} (tells : Tells failure)
    (small : timeout ≤ 2147483647) (due : timeout < net.untilAbort)
    (before : timeout ≤ own) (clock : ex.network.clock = net.clock + timeout)
    (outcome : ex.outcome = .ofTrouble failure (Trouble.of? true timeout .aborted))
    (caller : ex.network.abortAt = net.abortAt) (replies : ex.network.replies = net.replies.tail) :
    ex.Settles net timeout own plain where
  clock := by
    rw [min_eq_left before, min_eq_right due.le, clock, Nat.cast_add]
  aborted first := absurd first.1 (not_le.mpr due)
  expired _ _ := ⟨failure (.timeout timeout), outcome, tells.cause _,
    (tells.message _).trans (Trouble.timeout_message small)⟩
  ended _ late := absurd before (not_le.mpr late)
  caller := caller
  replies := replies

theorem of_end {finish : ℕ} (ends : own = finish) (due : finish < timeout)
    (before : finish < net.untilAbort) (clock : ex.network.clock = net.clock + finish)
    (outcome : plain = some ex.outcome) (caller : ex.network.abortAt = net.abortAt)
    (replies : ex.network.replies = net.replies.tail) : ex.Settles net timeout own plain where
  clock := by
    have late : (finish : ℕ∞) ≤ timeout := by exact_mod_cast due.le
    rw [ends, min_eq_right late, min_eq_right before.le, clock, Nat.cast_add]
  aborted first := absurd (ends ▸ first.2) (not_le.mpr before)
  expired _ late := absurd (by exact_mod_cast ends ▸ late) (not_le.mpr due)
  ended _ _ := outcome
  caller := caller
  replies := replies

end Exchange.Settles

namespace Network

section Head

variable {α : Type} {net : Network} {timeout : Nat} {stage : Stage} {request : Request}
  {reading : Response → Attempt → Option (Reading α)} {pause : Pause}
  {outcome : Except Fault Response} {rest : List Reply} {own : ℕ∞} {plain : Option (Outcome α)}

/-- The network of nothing but a reply, without any wait and without a caller who aborts. -/
def prompt (reply : Reply) : Network where
  replies := [reply.prompt]

theorem send_prompt_error {fault : Fault} :
    ((prompt (.later pause (.error fault))).start timeout).send request =
      some (.error fault, (prompt (.later pause (.error fault))).sending timeout request) :=
  send_of_error rfl rfl

theorem send_prompt_ok {response : Response} :
    ((prompt (.later pause (.ok response))).start timeout).send request =
      some (.ok response.prompt,
        ((prompt (.later pause (.ok response))).sending timeout request).deliver response.prompt) :=
  send_of_ok rfl rfl

/-- The wait for a reply comes to its end after a span, before the deadline and before the caller
aborts. -/
structure Arrives (net : Network) (timeout : ℕ) (request : Request) (pause : Pause) (span : ℕ) :
    Prop where
  length : pause.span.length = span
  due : span < timeout
  caller : span < net.untilAbort
  waits : net.callerAborted = false
  wait : (net.sending timeout request).wait pause =
    some (false, (net.sending timeout request).fire ⟨net.clock + span, .arrival⟩)

/-- Either a request settles before its reply is there, or the reply arrives. -/
theorem settles_or_arrives (pos : 1 ≤ timeout) (small : timeout ≤ 2147483647)
    (hr : net.replies = .later pause outcome :: rest) (heeds : pause.heedsAbort = true)
    (before : pause.span.length ≤ own) :
    (∃ ex, net.exchange timeout stage request reading = some ex ∧
      ex.Settles net timeout own plain) ∨
    ∃ span, net.Arrives timeout request pause span := by
  have delay := timerDelay_natCast pos small
  cases hc : net.callerAborted with
  | true =>
    have hw : (net.sending timeout request).wait pause =
        some (true, net.sending timeout request) := by
      have aborted : (net.sending timeout request).aborted = true := hc
      simp [Attempt.wait, heeds, aborted]
    exact Or.inl ⟨_, exchange_of_error (send_of_cut hr hw), .of_abort (tells_unanswered stage)
      (untilAbort_of_callerAborted hc) (Nat.zero_le _) (by simp) (by simp) rfl (by simp) (by simp)⟩
  | false =>
    have live := sending_live timeout request hc
    have race := live.wait heeds
    generalize hw : (net.sending timeout request).wait pause = waited at race
    rw [sending_clock] at race
    cases race with
    | abort time caller due early =>
      obtain ⟨span, rfl⟩ := Nat.exists_eq_add_of_le (live.caller time caller).le
      rw [sending_clock] at due early hw
      rw [sending_clock, sending_abortAt] at caller
      rw [sending_due, delay] at due
      exact Or.inl ⟨_, exchange_of_error (send_of_cut hr hw), .of_abort (tells_unanswered stage)
        (untilAbort_of_abortAt caller) (Nat.le_of_add_le_add_left due)
        ((natCast_add_le_iff.mp early).trans before) (by simp) (by simp) (by simp) (by simp)⟩
    | deadline caller early =>
      rw [sending_due, delay] at caller early
      rw [sending_abortAt] at caller
      exact Or.inl ⟨_, exchange_of_error (send_of_cut hr hw), .of_deadline (tells_unanswered stage)
        small (lt_untilAbort_iff.mpr caller) ((natCast_add_le_iff.mp early).trans before)
        (by simp [delay]) (by simp) (by simp) (by simp)⟩
    | arrival finish caller due ends =>
      obtain ⟨span, length, rfl⟩ := exists_of_add_eq_natCast ends
      rw [sending_abortAt] at caller
      rw [sending_due, delay] at due
      exact Or.inr ⟨span, length, Nat.lt_of_add_lt_add_left due, lt_untilAbort_iff.mpr caller, hc,
        hw⟩

theorem Arrives.settles_error {span : ℕ} {fault : Fault}
    (h : net.Arrives timeout request pause span)
    (hr : net.replies = .later pause (.error fault) :: rest) :
    ∃ ex, net.exchange timeout stage request reading = some ex ∧
      ex.Settles net timeout span (((prompt (.later pause (.error fault))).exchange timeout stage
        request reading).map (·.outcome)) := by
  refine ⟨_, exchange_of_error (send_of_error hr h.wait), ?_⟩
  rw [exchange_of_error send_prompt_error]
  exact .of_end rfl h.due h.caller (by simp) (by simp) (by simp) (by simp)

/-- A response that has arrived and that is read without a further wait. -/
theorem Arrives.settles_response {span : ℕ} {response : Response} {value : Outcome α}
    {state : BodyState} (h : net.Arrives timeout request pause span)
    (hr : net.replies = .later pause (.ok response) :: rest)
    (reads : ∀ attempt, reading response attempt = some ⟨value, state, attempt⟩)
    (readsPrompt : ∀ attempt, reading response.prompt attempt = some ⟨value, state, attempt⟩) :
    ∃ ex, net.exchange timeout stage request reading = some ex ∧
      ex.Settles net timeout span (((prompt (.later pause (.ok response))).exchange timeout stage
        request reading).map (·.outcome)) := by
  refine ⟨_, exchange_of_ok (send_of_ok hr h.wait) (reads _), ?_⟩
  rw [exchange_of_ok send_prompt_ok (readsPrompt _)]
  exact .of_end rfl h.due h.caller (by simp) rfl (by simp) (by simp)

/-- When a response is there, its body may still be cut short. -/
theorem Arrives.live_deliver {span : ℕ} (h : net.Arrives timeout request pause span)
    (pos : 1 ≤ timeout) (small : timeout ≤ 2147483647) (response : Response) :
    (((net.sending timeout request).fire ⟨net.clock + span, .arrival⟩).deliver response).Live := by
  have due : span < timerDelay timeout := by
    rw [timerDelay_natCast pos small]
    exact h.due
  exact (sending_arrive due h.caller).deliver response

/-- A response of status 200 has arrived; what is left is the wait for its body. -/
theorem Arrives.settles_body {span : ℕ} {response : Response} {body : Body}
    (h : net.Arrives timeout request pause span) (pos : 1 ≤ timeout)
    (small : timeout ≤ 2147483647) (hr : net.replies = .later pause (.ok response) :: rest)
    (status : response.status = 200) (hb : response.body = some body)
    (heeds : body.pause.heedsAbort = true) :
    ∃ ex, net.exchange timeout .token request (readToken timeout) = some ex ∧
      ex.Settles net timeout (span + body.pause.span.length)
        (((prompt (.later pause (.ok response))).exchange timeout .token request
          (readToken timeout)).map (·.outcome)) := by
  have delay := timerDelay_natCast pos small
  have sent := send_of_ok hr h.wait
  -- The race begins anew when the head is there, but its deadline is still that of the request.
  have race := (h.live_deliver pos small response).wait heeds
  have total : ((net.clock + span : ℕ) : ℕ∞) + body.pause.span.length =
      net.clock + (span + body.pause.span.length) := by
    rw [Nat.cast_add, add_assoc]
  generalize hread : Attempt.wait _ body.pause = waited at race
  rw [Attempt.deliver_clock, Attempt.fire_clock, total] at race
  cases race with
  | abort time caller due early =>
    rw [Attempt.deliver_abortAt, Attempt.fire_abortAt, sending_abortAt] at caller
    rw [Attempt.deliver_due, Attempt.fire_due, sending_due, delay] at due
    have later := lt_untilAbort_iff.mp h.caller time caller
    obtain ⟨length, rfl⟩ := Nat.exists_eq_add_of_le (show net.clock ≤ time by omega)
    exact ⟨_, exchange_of_ok sent (readToken_of_error status hb (Attempt.read_of_cut hread)),
      .of_abort tells_brokenToken (untilAbort_of_abortAt caller) (Nat.le_of_add_le_add_left due)
        (natCast_add_le_iff.mp early) (by simp) (by simp) (by simp) (by simp)⟩
  | deadline caller early =>
    rw [Attempt.deliver_due, Attempt.fire_due, sending_due, delay] at caller early
    rw [Attempt.deliver_abortAt, Attempt.fire_abortAt, sending_abortAt] at caller
    exact ⟨_, exchange_of_ok sent (readToken_of_error status hb (Attempt.read_of_cut hread)),
      .of_deadline tells_brokenToken small (lt_untilAbort_iff.mpr caller)
        (natCast_add_le_iff.mp early) (by simp [delay]) (by simp) (by simp) (by simp)⟩
  | arrival finish caller due ends =>
    rw [Attempt.deliver_abortAt, Attempt.fire_abortAt, sending_abortAt] at caller
    rw [Attempt.deliver_due, Attempt.fire_due, sending_due, delay] at due
    obtain ⟨length, finishes, rfl⟩ := exists_of_add_eq_natCast ends
    have intime := Nat.lt_of_add_lt_add_left due
    have live : ((prompt (.later pause (.ok response))).sending timeout request).Live :=
      sending_live _ _ rfl
    have waits := (live.deliver response.prompt).wait_instant
    have hb' : response.prompt.body = some { body with pause := ⟨.instant, true⟩ } := by
      simp [Response.prompt, hb]
    cases hf : body.failure with
    | none =>
      refine ⟨_, exchange_of_ok sent (readToken_of_ok status hb (Attempt.read_of_end hf hread)), ?_⟩
      rw [exchange_of_ok send_prompt_ok
        (readToken_of_ok status hb' (Attempt.read_of_end hf waits))]
      exact .of_end finishes intime (lt_untilAbort_iff.mpr caller) (by simp) rfl (by simp) (by simp)
    | some fault =>
      refine ⟨_, exchange_of_ok sent
        (readToken_of_error status hb (Attempt.read_of_failure hf hread)), ?_⟩
      rw [exchange_of_ok send_prompt_ok
        (readToken_of_error status hb' (Attempt.read_of_failure hf waits))]
      exact .of_end finishes intime (lt_untilAbort_iff.mpr caller) (by simp) (by simp) (by simp)
        (by simp)

end Head

end Network

section Settles

variable {access : Access} {timeout : ℕ} {net : Network} {reply : Reply} {rest : List Reply}

theorem Exchange.Settles.clock_le {α : Type} {ex : Exchange α} {own : ℕ∞}
    {plain : Option (Outcome α)} (h : ex.Settles net timeout own plain) :
    ex.network.clock ≤ net.clock + timeout := by
  have le : (ex.network.clock : ℕ∞) ≤ net.clock + timeout := by
    rw [h.clock]
    gcongr
    exact (min_le_right _ _).trans (min_le_left _ _)
  exact_mod_cast le

/-- A request without a reply is refused at once, so that all requests settle in time if those do
that have a reply. -/
theorem Network.exchange_in_time {α : Type} {given : Rat} {stage : Stage} {request : Request}
    {reading : Response → Attempt → Option (Reading α)} {own : Reply → ℕ∞}
    {plain : Reply → Option (Outcome α)}
    (settles : ∀ reply rest, net.replies = reply :: rest →
      ∃ ex, net.exchange given stage request reading = some ex ∧
        ex.Settles net timeout (own reply) (plain reply)) :
    ∃ ex, net.exchange given stage request reading = some ex ∧
      ex.network.clock ≤ net.clock + timeout ∧ ex.network.abortAt = net.abortAt ∧
      ex.network.replies = net.replies.tail ∧
      ∀ reply rest, net.replies = reply :: rest →
        ex.Settles net timeout (own reply) (plain reply) := by
  cases hr : net.replies with
  | nil =>
    exact ⟨_, exchange_of_error (start_send_of_no_reply _ _ hr), by simp, by simp, by simp [hr],
      by simp⟩
  | cons reply rest =>
    obtain ⟨ex, h, hs⟩ := settles reply rest hr
    refine ⟨ex, h, hs.clock_le, hs.caller, by rw [hs.replies, hr], ?_⟩
    intro reply' rest' heq
    cases heq
    exact hs

theorem Reply.HeedsAbort.head {pause : Pause} {outcome : Except Fault Response}
    (h : (Reply.later pause outcome).HeedsAbort) : pause.heedsAbort = true := by
  cases outcome with
  | error fault => exact h
  | ok response => exact h.1

theorem fetchLimits_settles (given : access.timeout = timeout) (pos : 1 ≤ timeout)
    (small : timeout ≤ 2147483647) (hr : net.replies = reply :: rest) (heeds : reply.HeedsAbort)
    (token : String) :
    ∃ ex, fetchLimits access token net = some ex ∧ ex.Settles net timeout reply.headTime
      ((fetchLimits access token (.prompt reply)).map (·.outcome)) := by
  unfold fetchLimits
  rw [given]
  cases reply with
  | thrown fault => exact heeds.elim
  | later pause outcome =>
    rcases Network.settles_or_arrives pos small hr heeds.head le_rfl with settles | ⟨span, arrives⟩
    · exact settles
    · rw [Reply.headTime, arrives.length]
      cases outcome with
      | error fault => exact arrives.settles_error hr
      | ok response =>
        exact arrives.settles_response hr (readLimits_eq · _) (readLimits_eq · _)

theorem fetchToken_settles (given : access.timeout = timeout) (pos : 1 ≤ timeout)
    (small : timeout ≤ 2147483647) (hr : net.replies = reply :: rest) (heeds : reply.HeedsAbort)
    (credentials : Credentials) :
    ∃ ex, fetchToken access credentials net = some ex ∧ ex.Settles net timeout reply.tokenTime
      ((fetchToken access credentials (.prompt reply)).map (·.outcome)) := by
  unfold fetchToken
  rw [given]
  cases reply with
  | thrown fault => exact heeds.elim
  | later pause outcome =>
    have before : pause.span.length ≤ (Reply.later pause outcome).tokenTime := by
      cases outcome <;> simp [Reply.tokenTime, Reply.headTime]
    rcases Network.settles_or_arrives pos small hr heeds.head before with settles | ⟨span, arrives⟩
    · exact settles
    · cases outcome with
      | error fault =>
        have ends : (Reply.later pause (.error fault)).tokenTime = span := arrives.length
        rw [ends]
        exact arrives.settles_error hr
      | ok response =>
        by_cases status : response.status = 200
        · cases hb : response.body with
          | none =>
            have ends : (Reply.later pause (.ok response)).tokenTime = span := by
              simp [Reply.tokenTime, hb, arrives.length]
            rw [ends]
            exact arrives.settles_response hr (fun _ => readToken_of_empty status hb)
              fun _ => readToken_of_empty status (by simp [Response.prompt, hb])
          | some body =>
            have ends : (Reply.later pause (.ok response)).tokenTime =
                span + body.pause.span.length := by
              simp [Reply.tokenTime, status, hb, arrives.length]
            rw [ends]
            exact arrives.settles_body pos small hr status hb (heeds.2 body hb)
        · have ends : (Reply.later pause (.ok response)).tokenTime = span := by
            simp [Reply.tokenTime, status, arrives.length]
          rw [ends]
          exact arrives.settles_response hr (fun _ => readToken_of_refused status)
            fun _ => readToken_of_refused status

theorem fetchToken_in_time (given : access.timeout = timeout) (pos : 1 ≤ timeout)
    (small : timeout ≤ 2147483647) (heeds : ∀ reply ∈ net.replies, reply.HeedsAbort)
    (credentials : Credentials) :
    ∃ ex, fetchToken access credentials net = some ex ∧
      ex.network.clock ≤ net.clock + timeout ∧ ex.network.abortAt = net.abortAt ∧
      ex.network.replies = net.replies.tail := by
  have settles : ∀ reply rest, net.replies = reply :: rest → _ := fun reply rest hr =>
    fetchToken_settles given pos small hr (heeds reply (by simp [hr])) credentials
  obtain ⟨ex, h, early, caller, replies, _⟩ := Network.exchange_in_time settles
  exact ⟨ex, h, early, caller, replies⟩

theorem fetchLimits_in_time (given : access.timeout = timeout) (pos : 1 ≤ timeout)
    (small : timeout ≤ 2147483647) (heeds : ∀ reply ∈ net.replies, reply.HeedsAbort)
    (token : String) :
    ∃ ex, fetchLimits access token net = some ex ∧ ex.network.clock ≤ net.clock + timeout ∧
      ∀ reply rest, net.replies = reply :: rest → ex.Settles net timeout reply.headTime
        ((fetchLimits access token (.prompt reply)).map (·.outcome)) := by
  have settles : ∀ reply rest, net.replies = reply :: rest → _ := fun reply rest hr =>
    fetchLimits_settles given pos small hr (heeds reply (by simp [hr])) token
  obtain ⟨ex, h, early, _, _, settles⟩ := Network.exchange_in_time settles
  exact ⟨ex, h, early, settles⟩

/-- Requests whose replies heed the abort settle in time: the first of the caller's abort, the
deadline and the reply counts. In an inquiry the second request has a deadline of its own and the
same caller. -/
theorem settles_in_time (given : access.timeout = timeout) (pos : 1 ≤ timeout)
    (small : timeout ≤ 2147483647) (net : Network) :
    (∀ reply rest, net.replies = reply :: rest → reply.HeedsAbort →
      (∀ credentials, ∃ ex, fetchToken access credentials net = some ex ∧
        ex.Settles net timeout reply.tokenTime
          ((fetchToken access credentials (.prompt reply)).map (·.outcome))) ∧
      ∀ token, ∃ ex, fetchLimits access token net = some ex ∧
        ex.Settles net timeout reply.headTime
          ((fetchLimits access token (.prompt reply)).map (·.outcome))) ∧
    ((∀ reply ∈ net.replies, reply.HeedsAbort) → ∀ credentials,
      ∃ first inquiry, fetchToken access credentials net = some first ∧
        fetchQuota access credentials net = some inquiry ∧
        inquiry.network.clock ≤ net.clock + 2 * timeout ∧
        ∀ token, first.outcome = .done token →
          ∃ second, fetchLimits access token first.network = some second ∧
            inquiry.outcome = second.outcome ∧ inquiry.network = second.network ∧
            first.network.abortAt = net.abortAt ∧
            ∀ reply rest, first.network.replies = reply :: rest →
              second.Settles first.network timeout reply.headTime
                ((fetchLimits access token (.prompt reply)).map (·.outcome))) := by
  refine ⟨?_, ?_⟩
  · intro reply rest hr heeds
    exact ⟨fetchToken_settles given pos small hr heeds,
      fetchLimits_settles given pos small hr heeds⟩
  · intro heeds credentials
    obtain ⟨first, hf, early, caller, replies⟩ :=
      fetchToken_in_time given pos small heeds credentials
    -- The second request finds the same caller and the replies that are left.
    have heedsNext : ∀ reply ∈ first.network.replies, reply.HeedsAbort := by
      intro reply mem
      rw [replies] at mem
      exact heeds reply (List.mem_of_mem_tail mem)
    by_cases ho : ∃ token, first.outcome = .done token
    · obtain ⟨token, ho⟩ := ho
      obtain ⟨second, hs, early', settles⟩ := fetchLimits_in_time given pos small heedsNext token
      obtain ⟨inquiry, h, outcome, network⟩ := fetchQuota_of_token hf ho hs
      refine ⟨first, inquiry, hf, h, ?_, ?_⟩
      · rw [network]
        omega
      · intro token' heq
        cases Outcome.done.inj (ho.symm.trans heq)
        exact ⟨second, hs, outcome, network, caller, settles⟩
    · have refused := not_exists.mp ho
      obtain ⟨inquiry, h, network⟩ := fetchQuota_of_no_token hf refused
      refine ⟨first, inquiry, hf, h, ?_, fun token heq => absurd heq (refused token)⟩
      rw [network]
      omega

end Settles

/-- A network that never answers, with a caller who aborts after seven milliseconds. -/
def Network.silent : Network where
  replies := [.later ⟨.endless, true⟩ (.error .aborted)]
  abortAt := some 7

/-- At the time of the deadline the caller's abort comes first. -/
theorem settles_in_time_at_tie : ∃ ex,
    fetchToken { timeout := 7 } .anonymous .silent = some ex ∧ ex.network.clock = 7 ∧
    ∃ failure, ex.outcome = .failed failure ∧ failure.cause = .transport ∧
      failure.message = "Request aborted" := by
  have given : ({ timeout := 7 } : Access).timeout = (7 : ℕ) := rfl
  obtain ⟨ex, h, settles⟩ :=
    ((settles_in_time given (by decide) (by decide) .silent).1
      (.later ⟨.endless, true⟩ (.error .aborted)) [] rfl rfl).1 .anonymous
  have caller : Network.silent.untilAbort = (7 : ℕ) := rfl
  have own : (Reply.later ⟨.endless, true⟩ (.error .aborted)).tokenTime = ⊤ := rfl
  refine ⟨ex, h, ?_, settles.aborted ⟨le_rfl, le_top⟩⟩
  have clock := settles.clock
  rw [own, caller, min_eq_left le_top, min_self, ← Nat.cast_add] at clock
  exact Nat.cast_injective clock

end PullQuota
