import PullQuota.Proofs.Exchanges

/-!
What requests hold while they run, and that they give all of it back.
-/

namespace PullQuota

namespace Holdings

/-- At most one of each. -/
def Single (holdings : Holdings) : Prop :=
  (0 ≤ holdings.timers ∧ holdings.timers ≤ 1) ∧
    (0 ≤ holdings.listeners ∧ holdings.listeners ≤ 1) ∧
    (0 ≤ holdings.bodies ∧ holdings.bodies ≤ 1)

/-- What one request holds. -/
def ofRequest (timer listener body : Bool) : Holdings :=
  ⟨timer.toInt, listener.toInt, body.toInt⟩

theorem single_ofRequest (timer listener body : Bool) : (ofRequest timer listener body).Single := by
  cases timer <;> cases listener <;> cases body <;> simp [ofRequest, Single]

end Holdings

namespace Journal

@[simp] theorem holdings_singleton (event : Event) : holdings [event] = event.change := by
  simp [holdings]

/-- The events of requests that come one after the other. There is never more than one timer, one
listener and one open body, and a request is sent when all that came before it is given back and
only its own timer and listener are held. -/
structure Tidy (events : Journal) : Prop where
  single : ∀ past, past <+: events → (holdings past).Single
  fresh : ∀ past request, past ++ [.sent request] <+: events →
    ∃ before, holdings before = .none ∧
      (past = before ++ [.timerSet] ∨ past = before ++ [.timerSet, .listenerAdded])

theorem Tidy.nil : Tidy [] where
  single past hp := by
    cases List.prefix_nil.mp hp
    exact Holdings.single_ofRequest false false false
  fresh past request hp := by simp at hp

theorem Tidy.concat {events : Journal} {event : Event} (h : Tidy events)
    (single : (holdings (events ++ [event])).Single) (quiet : ∀ request, event ≠ .sent request) :
    Tidy (events ++ [event]) where
  single past hp := by
    rcases List.prefix_concat_iff.mp hp with rfl | hp
    · exact single
    · exact h.single past hp
  fresh past request hp := by
    rcases List.prefix_concat_iff.mp hp with heq | hp
    · have := (List.append_inj' heq rfl).2
      exact absurd (List.cons.inj this).1.symm (quiet request)
    · exact h.fresh past request hp

theorem Tidy.sent {events : Journal} {request : Request} (h : Tidy events) (before : Journal)
    (hb : holdings before = .none)
    (he : events = before ++ [.timerSet] ∨ events = before ++ [.timerSet, .listenerAdded]) :
    Tidy (events ++ [.sent request]) where
  single past hp := by
    rcases List.prefix_concat_iff.mp hp with rfl | hp
    · simpa [Event.change] using h.single events (List.prefix_refl _)
    · exact h.single past hp
  fresh past other hp := by
    rcases List.prefix_concat_iff.mp hp with heq | hp
    · obtain ⟨rfl, _⟩ := List.append_inj' heq rfl
      exact ⟨before, hb, he⟩
    · exact h.fresh past other hp

/-- Requests that have given all back may be followed by others. -/
theorem Tidy.append {first second : Journal} (h : Tidy first) (hn : holdings first = .none)
    (h' : Tidy second) : Tidy (first ++ second) where
  single past hp := by
    rcases List.prefix_or_prefix_of_prefix hp (List.prefix_append first second) with hp | hf
    · exact h.single past hp
    · obtain ⟨rest, rfl⟩ := hf
      simpa [hn] using h'.single rest ((List.prefix_append_right_inj first).mp hp)
  fresh past request hp := by
    rcases List.prefix_or_prefix_of_prefix hp (List.prefix_append first second) with hp | hf
    · exact h.fresh past request hp
    · rcases List.prefix_concat_iff.mp hf with heq | hf
      · exact h.fresh past request (heq ▸ List.prefix_refl _)
      -- A request of the second part: what the first part took is given back by then.
      · obtain ⟨rest, rfl⟩ := hf
        rw [List.append_assoc] at hp
        obtain ⟨before, hb, heq⟩ :=
          h'.fresh rest request ((List.prefix_append_right_inj first).mp hp)
        refine ⟨first ++ before, by simp [hn, hb], ?_⟩
        simpa only [List.append_assoc, List.append_cancel_left_eq] using heq

/-- The requests that are sent. -/
def requests (events : Journal) : List Request :=
  events.filterMap fun
    | .sent request => some request
    | _ => none

@[simp] theorem requests_append (events later : Journal) :
    requests (events ++ later) = requests events ++ requests later :=
  List.filterMap_append

theorem requests_quiet {event : Event} (h : ∀ request, event ≠ .sent request) :
    requests [event] = [] := by
  cases event with
  | sent request => exact absurd rfl (h request)
  | _ => rfl

/-- A journal goes on from another one with events that are tidy, send the requests and leave
something held. -/
def Extends (base : Journal) (sent : List Request) (left : Holdings) (journal : Journal) : Prop :=
  ∃ events : Journal, journal = base ++ events ∧ events.Tidy ∧ events.requests = sent ∧
    events.holdings = left

theorem Extends.concat {base journal : Journal} {sent : List Request} {left left' : Holdings}
    (h : base.Extends sent left journal) (event : Event)
    (quiet : ∀ request, event ≠ .sent request) (change : left + event.change = left')
    (single : left'.Single) : base.Extends sent left' (journal ++ [event]) := by
  obtain ⟨events, rfl, tidy, hs, hl⟩ := h
  have total : (events ++ [event] : Journal).holdings = left' := by
    rw [holdings_append, holdings_singleton, hl, change]
  refine ⟨events ++ [event], List.append_assoc _ _ _, tidy.concat ?_ quiet, ?_, total⟩
  · rwa [total]
  · rw [requests_append, hs, requests_quiet quiet, List.append_nil]

theorem Extends.trans {base middle journal : Journal} {sent later : List Request}
    (h : base.Extends sent .none middle) (h' : middle.Extends later .none journal) :
    base.Extends (sent ++ later) .none journal := by
  obtain ⟨events, rfl, tidy, hs, hl⟩ := h
  obtain ⟨events', rfl, tidy', hs', hl'⟩ := h'
  exact ⟨events ++ events', List.append_assoc _ _ _, tidy.append hl tidy', by simp [hs, hs'],
    by simp [hl, hl']⟩

end Journal

namespace Attempt

/-- An attempt that has gone on from a journal and by now holds its timer until that has gone off,
its listener until that was called, and perhaps a body. -/
def Holds (base : Journal) (request : Request) (body : Bool) (attempt : Attempt) : Prop :=
  base.Extends [request] (.ofRequest (!attempt.expired) attempt.listening body)
    attempt.net.journal

section Holds

variable {base : Journal} {request : Request} {body : Bool} {attempt after : Attempt}

/-- An attempt in which only the clock or the replies have changed holds the same. -/
theorem Holds.of_journal_eq (h : attempt.Holds base request body)
    (hj : after.net.journal = attempt.net.journal) (he : after.expired = attempt.expired)
    (hl : after.listening = attempt.listening) : after.Holds base request body := by
  unfold Holds
  rw [hj, he, hl]
  exact h

theorem Holds.of_journal_concat {body' : Bool} (h : attempt.Holds base request body)
    (event : Event) (hj : after.net.journal = attempt.net.journal ++ [event])
    (quiet : ∀ request, event ≠ .sent request)
    (change : .ofRequest (!attempt.expired) attempt.listening body + event.change =
      .ofRequest (!after.expired) after.listening body') : after.Holds base request body' := by
  unfold Holds
  rw [hj]
  exact h.concat event quiet change (Holdings.single_ofRequest _ _ _)

/-- A timer goes off; that of a deadline does so only once. -/
theorem Holds.fire {timer : Timer} (h : attempt.Holds base request body)
    (once : timer.alarm = .deadline → attempt.expired = false) :
    (attempt.fire timer).Holds base request body := by
  obtain ⟨due, alarm⟩ := timer
  cases alarm with
  | abort =>
    cases hl : attempt.listening with
    | false =>
      exact h.of_journal_eq (by simp [Attempt.fire, hl]) (by simp [Attempt.fire, hl])
        (by simp [Attempt.fire, hl])
    | true =>
      refine h.of_journal_concat .listenerCalled ?_ (by simp) ?_
      · simp [Attempt.fire, hl, note, Network.note]
      · simp [Attempt.fire, hl, note, Holdings.ofRequest, Event.change]
  | deadline =>
    refine h.of_journal_concat .timerFired ?_ (by simp) ?_
    · simp [Attempt.fire, note, Network.note]
    · simp [Attempt.fire, once rfl, note, Holdings.ofRequest, Event.change]
  | arrival => exact h.of_journal_eq rfl rfl rfl

theorem Holds.watch {heedsAbort cut : Bool} {timers : List Timer}
    (h : attempt.Holds base request body)
    (once : timers.countP (·.alarm = .deadline) ≤ (!attempt.expired).toNat)
    (hw : attempt.watch heedsAbort timers = some (cut, after)) : after.Holds base request body := by
  -- The deadline is among the timers left only while it has not passed, so it goes off once.
  induction timers generalizing attempt with
  | nil => simp [Attempt.watch] at hw
  | cons timer rest ih =>
    simp only [List.countP_cons] at once
    have armed : timer.alarm = .deadline → attempt.expired = false := by
      intro ha
      cases he : attempt.expired with
      | false => rfl
      | true => simp [ha, he] at once
    have fired := h.fire armed
    simp only [Attempt.watch] at hw
    split at hw
    next => cases Option.some.inj hw; exact fired
    next =>
      split at hw
      next => cases Option.some.inj hw; exact fired
      next =>
        refine ih fired ?_ hw
        rw [fire_expired]
        by_cases ha : timer.alarm = .deadline
        · simpa [ha, armed ha] using once
        · simpa [ha] using once

theorem countP_inOrder_pending (attempt : Attempt) (arrival : Option Nat) :
    (Timer.inOrder (attempt.pending arrival)).countP (·.alarm = .deadline) ≤
      (!attempt.expired).toNat := by
  rw [(Timer.inOrder_perm _).countP_eq]
  unfold pending
  cases attempt.net.abortAt.filter (attempt.net.clock < ·) <;> cases attempt.expired <;>
    cases arrival <;> simp

theorem Holds.wait {cut : Bool} {pause : Pause} (h : attempt.Holds base request body)
    (hw : attempt.wait pause = some (cut, after)) : after.Holds base request body := by
  unfold Attempt.wait at hw
  split at hw
  next => cases Option.some.inj hw; exact h
  next =>
    split at hw
    next => cases Option.some.inj hw; exact h
    next => exact h.watch (countP_inOrder_pending _ _) hw
    next => exact h.watch (countP_inOrder_pending _ _) hw

theorem Holds.deliver (response : Response) (h : attempt.Holds base request false) :
    (attempt.deliver response).Holds base request response.body.isSome := by
  unfold Attempt.deliver
  split
  next hb =>
    rw [hb]
    exact h.of_journal_concat .bodyOpened rfl (by simp)
      (by simp [note, Holdings.ofRequest, Event.change])
  next hb => rwa [Bool.eq_false_iff.mpr hb]

/-- When its request is sent, an attempt holds its timer and, if the caller may yet abort, its
listener; nothing else has been taken by then. -/
theorem holds_start_sent (net : Network) (timeout : Rat) (request : Request) :
    ((net.start timeout).note (.sent request)).Holds net.journal request false := by
  have first : Journal.Tidy [.timerSet] :=
    Journal.Tidy.nil.concat (Holdings.single_ofRequest true false false) (by simp)
  have second : Journal.Tidy [.timerSet, .listenerAdded] :=
    first.concat (Holdings.single_ofRequest true true false) (by simp)
  cases hl : (net.abortAt.isSome && !net.callerAborted) with
  | false =>
    refine ⟨[.timerSet, .sent request], ?_, first.sent [] rfl (Or.inl rfl),
      rfl, ?_⟩
    · simp [Network.start, hl, note, Network.note]
    · simp [Network.start, hl, note, Journal.holdings, Event.change, Holdings.ofRequest]
  | true =>
    refine ⟨[.timerSet, .listenerAdded, .sent request], ?_, second.sent [] rfl (Or.inr rfl),
      rfl, ?_⟩
    · simp [Network.start, hl, note, Network.note]
    · simp [Network.start, hl, note, Journal.holdings, Event.change, Holdings.ofRequest]

theorem Holds.receive {reply : Reply} {answer : Except Fault Response}
    (h : attempt.Holds base request false) (hr : attempt.receive reply = some (answer, after)) :
    after.Holds base request (answer.toOption.any (·.body.isSome)) := by
  cases reply with
  | thrown fault => cases Option.some.inj hr; exact h
  | later pause outcome =>
    obtain ⟨⟨cut, waited⟩, hw, hr⟩ := Option.bind_eq_some_iff.mp hr
    have held := h.wait hw
    cases cut with
    | true => cases Option.some.inj hr; exact held
    | false =>
      cases outcome with
      | error fault => cases Option.some.inj hr; exact held
      | ok response => cases Option.some.inj hr; exact held.deliver response

theorem Holds.withReplies (replies : List Reply) (h : attempt.Holds base request body) :
    (attempt.withReplies replies).Holds base request body :=
  h.of_journal_eq rfl rfl rfl

theorem Holds.send {net : Network} {timeout : Rat} {request : Request}
    {answer : Except Fault Response} (h : (net.start timeout).send request = some (answer, after)) :
    after.Holds net.journal request (answer.toOption.any (·.body.isSome)) := by
  have sent := holds_start_sent net timeout request
  unfold Attempt.send at h
  simp only at h
  split at h
  next => cases Option.some.inj h; exact sent
  next => exact (sent.withReplies _).receive h

theorem Holds.read {body : Body} {content : Except Fault (List UInt8)}
    (h : attempt.Holds base request true) (hr : attempt.read body = some (content, after)) :
    after.Holds base request false := by
  obtain ⟨⟨cut, waited⟩, hw, hr⟩ := Option.bind_eq_some_iff.mp hr
  have closed : (waited.note .bodyClosed).Holds base request false :=
    (h.wait hw).of_journal_concat .bodyClosed rfl (by simp)
      (by simp [note, Holdings.ofRequest, Event.change])
  cases cut with
  | true => cases Option.some.inj hr; exact closed
  | false =>
    simp only [Bool.false_eq_true, if_false] at hr
    split at hr
    next => cases Option.some.inj hr; exact closed
    next => cases Option.some.inj hr; exact closed

/-- When the timer is given back, there is nothing left of it. -/
theorem Holds.stop_timer (h : attempt.Holds base request body) :
    base.Extends [request] (.ofRequest false attempt.listening body)
      (if attempt.expired then attempt.net else attempt.net.note .timerCleared).journal := by
  unfold Holds at h
  cases he : attempt.expired with
  | true => simpa [he] using h
  | false =>
    rw [he] at h
    exact h.concat .timerCleared (by simp) (by simp [Holdings.ofRequest, Event.change])
      (Holdings.single_ofRequest _ _ _)

/-- When the deadline is given back, only the body is left. -/
theorem Holds.clear (h : attempt.Holds base request body) :
    base.Extends [request] (.ofRequest false false body) attempt.clear.journal := by
  have stopped := h.stop_timer
  unfold Attempt.clear
  cases hl : attempt.listening with
  | false => rwa [hl] at stopped
  | true =>
    rw [hl] at stopped
    exact stopped.concat .listenerRemoved (by simp) (by simp [Holdings.ofRequest, Event.change])
      (Holdings.single_ofRequest _ _ _)

end Holds

end Attempt

/-- A way to read a response that closes the body, or leaves it unread. -/
def Accountable {α : Type} (reading : Response → Attempt → Option (Reading α)) : Prop :=
  ∀ base request response attempt result, attempt.Holds base request response.body.isSome →
    reading response attempt = some result →
    result.attempt.Holds base request (decide (result.body = .unread) && response.body.isSome)

namespace Network

/-- A run from one network to another that sends the requests and gives back all that it takes. -/
def Restores (net : Network) (sent : List Request) (after : Network) : Prop :=
  net.journal.Extends sent .none after.journal

/-- After its release a body is not open, whatever it came to. -/
theorem release_ne_unread (net : Network) (response : Response) (state : BodyState) :
    (net.release response state).1 ≠ .unread := by
  cases state with
  | unread => unfold release; cases response.body <;> simp [Body.cancel]
  | _ => simp [release]

theorem release_journal (net : Network) (response : Response) (state : BodyState) :
    (net.release response state).2.journal =
      if decide (state = .unread) && response.body.isSome then net.journal ++ [.bodyClosed]
      else net.journal := by
  cases state with
  | unread => unfold release; cases response.body <;> simp [note]
  | _ => simp [release]

/-- An exchange gives back all that it takes, and leaves no body open. -/
theorem exchange_restores {α : Type} {net : Network} {timeout : Rat} {stage : Stage}
    {request : Request} {reading : Response → Attempt → Option (Reading α)} {ex : Exchange α}
    (account : Accountable reading)
    (h : net.exchange timeout stage request reading = some ex) :
    net.Restores [ex.call.request] ex.network ∧ ex.call.body? ≠ some .unread := by
  rcases exchange_eq_some h with ⟨fault, attempt, hs, rfl⟩ |
    ⟨response, attempt, result, hs, hr, rfl⟩
  · exact ⟨(Attempt.Holds.send hs).clear, by simp [Call.body?]⟩
  · have cleared := (account _ _ _ _ _ (Attempt.Holds.send hs) hr).clear
    refine ⟨?_, by simpa [Call.body?] using release_ne_unread _ response result.body⟩
    unfold Restores
    rw [release_journal]
    cases hb : (decide (result.body = .unread) && response.body.isSome) with
    | false => rwa [hb] at cleared
    | true =>
      rw [hb] at cleared
      exact cleared.concat .bodyClosed (by simp) rfl (Holdings.single_ofRequest false false false)

end Network

theorem readToken_accountable (timeout : Rat) : Accountable (readToken timeout) := by
  intro base request response attempt result held h
  unfold readToken at h
  split at h
  next =>
    cases Option.some.inj h
    simpa using held
  next =>
    split at h
    next hb =>
      cases Option.some.inj h
      simpa [hb] using held
    next body hb =>
      obtain ⟨⟨content, after⟩, hr, h⟩ := Option.bind_eq_some_iff.mp h
      rw [hb] at held
      have closed := held.read hr
      cases content with
      | error fault => cases Option.some.inj h; exact closed
      | ok bytes => cases Option.some.inj h; exact closed

theorem readLimits_accountable : Accountable readLimits := by
  intro base request response attempt result held h
  unfold readLimits at h
  split at h
  next => cases Option.some.inj h; simpa using held
  next => cases Option.some.inj h; simpa using held

end PullQuota
