import Mathlib.Data.List.Forall2
import PullQuota.Proofs.Inquiries

/-!
Two inquiries side by side that differ in what is secret: the account and the tokens.
-/

namespace PullQuota

section Rel

variable {ε α β γ δ : Type}

theorem rel_bind {R : α → β → Prop} {S : γ → δ → Prop} {x : Option α} {y : Option β}
    {f : α → Option γ} {g : β → Option δ} (h : Option.Rel R x y)
    (next : ∀ a b, R a b → Option.Rel S (f a) (g b)) : Option.Rel S (x.bind f) (y.bind g) := by
  cases h with
  | some related => exact next _ _ related
  | none => exact .none

theorem rel_map {R : α → β → Prop} {S : γ → δ → Prop} {x : Option α} {y : Option β}
    {f : α → γ} {g : β → δ} (h : Option.Rel R x y) (next : ∀ a b, R a b → S (f a) (g b)) :
    Option.Rel S (x.map f) (y.map g) := by
  cases h with
  | some related => exact .some (next _ _ related)
  | none => exact .none

/-- Two related values, or twice the same error. -/
inductive Except.Rel (R : α → β → Prop) : Except ε α → Except ε β → Prop
  | error (error : ε) : Rel R (.error error) (.error error)
  | ok {a : α} {b : β} (related : R a b) : Rel R (.ok a) (.ok b)

/-- Two ends with related values, or twice the same end without a value. -/
inductive Outcome.Rel (R : α → β → Prop) : Outcome α → Outcome β → Prop
  | done {a : α} {b : β} (related : R a b) : Rel R (.done a) (.done b)
  | failed (failure : Failure) : Rel R (.failed failure) (.failed failure)
  | broken (breakdown : Breakdown) : Rel R (.broken breakdown) (.broken breakdown)

theorem Outcome.rel_refl {R : α → α → Prop} (refl : ∀ a, R a a) (outcome : Outcome α) :
    Rel R outcome outcome := by
  cases outcome with
  | done value => exact .done (refl value)
  | failed failure => exact .failed failure
  | broken breakdown => exact .broken breakdown

theorem Outcome.Rel.eq {outcome outcome' : Outcome α} (h : Rel Eq outcome outcome') :
    outcome = outcome' := by
  cases h with
  | done related => rw [related]
  | failed failure => rfl
  | broken breakdown => rfl

theorem Outcome.rel_ofTrouble {R : α → β → Prop} (failure : Trouble → Failure)
    (trouble : Option Trouble) : Rel R (ofTrouble failure trouble) (ofTrouble failure trouble) := by
  cases trouble with
  | none => exact .broken .untold
  | some trouble => exact .failed (failure trouble)

end Rel

/-- A token can be read from a body. -/
def hasToken (bytes : List UInt8) : Bool :=
  (parseToken (bodyText bytes)).isSome

/-- Bodies with a token each, whatever it is, or both without one. They come in the same way. -/
structure Body.Alike (body body' : Body) : Prop where
  pause : body.pause = body'.pause
  failure : body.failure = body'.failure
  token : hasToken body.chunks.flatten = hasToken body'.chunks.flatten

structure Response.Alike (response response' : Response) : Prop where
  status : response.status = response'.status
  headers : response.headers = response'.headers
  body : Option.Rel Body.Alike response.body response'.body

inductive Reply.Alike : Reply → Reply → Prop
  | thrown (fault : Fault) : Alike (.thrown fault) (.thrown fault)
  | later (pause : Pause) {outcome outcome' : Except Fault Response}
      (outcomes : Except.Rel Response.Alike outcome outcome') :
      Alike (.later pause outcome) (.later pause outcome')

/-- Requests that differ at most in the account or the token that they show. -/
structure Request.Alike (request request' : Request) : Prop where
  method : request.method = request'.method
  url : request.url = request'.url
  headers : List.Forall₂ (fun field field' =>
    field.1 = field'.1 ∧ (field.1 ≠ "Authorization" → field.2 = field'.2))
    request.headers request'.headers

inductive Ending.Alike : Ending → Ending → Prop
  | failed (fault : Fault) : Alike (.failed fault) (.failed fault)
  | delivered {response response' : Response} (responses : response.Alike response')
      (body : BodyState) : Alike (.delivered response body) (.delivered response' body)

structure Call.Alike (call call' : Call) : Prop where
  request : call.request.Alike call'.request
  time : call.time = call'.time
  aborted : call.aborted = call'.aborted
  ending : call.ending.Alike call'.ending

/-- Networks that are alike to everyone but the holder of a token. The journal is for no one. -/
structure Network.Alike (net net' : Network) : Prop where
  replies : List.Forall₂ Reply.Alike net.replies net'.replies
  abortAt : net.abortAt = net'.abortAt
  clock : net.clock = net'.clock

structure Attempt.Alike (attempt attempt' : Attempt) : Prop where
  net : attempt.net.Alike attempt'.net
  due : attempt.due = attempt'.due
  listening : attempt.listening = attempt'.listening
  aborted : attempt.aborted = attempt'.aborted
  expired : attempt.expired = attempt'.expired

namespace Network.Alike

variable {net net' : Network}

theorem note (h : net.Alike net') (event event' : Event) :
    (net.note event).Alike (net'.note event') :=
  ⟨h.replies, h.abortAt, h.clock⟩

theorem callerAborted (h : net.Alike net') : net.callerAborted = net'.callerAborted := by
  rw [Network.callerAborted, Network.callerAborted, h.abortAt, h.clock]

theorem start (h : net.Alike net') (timeout : Rat) :
    (net.start timeout).Alike (net'.start timeout) where
  net := ⟨by simpa using h.replies, by simpa using h.abortAt, by simpa using h.clock⟩
  due := by simp only [Network.start, h.clock]
  listening := by simp only [Network.start, h.abortAt, h.callerAborted]
  aborted := h.callerAborted
  expired := rfl

theorem release (h : net.Alike net') {response response' : Response}
    (responses : response.Alike response') (state : BodyState) :
    (net.release response state).1 = (net'.release response' state).1 ∧
      (net.release response state).2.Alike (net'.release response' state).2 := by
  have bodies := responses.body
  unfold Network.release
  cases state with
  | unread =>
    generalize response.body = body at bodies ⊢
    generalize response'.body = body' at bodies ⊢
    cases bodies with
    | none => exact ⟨rfl, h⟩
    | some => exact ⟨rfl, h.note _ _⟩
  | _ => exact ⟨rfl, h⟩

end Network.Alike

namespace Attempt

section Fire

variable (attempt : Attempt) (timer : Timer)

theorem fire_listening : (attempt.fire timer).listening =
    (attempt.listening && decide (timer.alarm ≠ .abort)) := by
  unfold fire
  cases timer.alarm <;> cases attempt.listening <;> simp [note]

theorem fire_aborted : (attempt.fire timer).aborted =
    (attempt.aborted || decide (timer.alarm = .deadline) ||
      (attempt.listening && decide (timer.alarm = .abort))) := by
  unfold fire
  cases timer.alarm <;> cases attempt.listening <;> simp [note]

end Fire

/-- Attempts that went on alike, with related results. -/
def Results {α β : Type} (R : α → β → Prop) (result : α × Attempt) (result' : β × Attempt) : Prop :=
  R result.1 result'.1 ∧ result.2.Alike result'.2

namespace Alike

variable {attempt attempt' : Attempt}

theorem note (h : attempt.Alike attempt') (event event' : Event) :
    (attempt.note event).Alike (attempt'.note event') :=
  ⟨h.net.note event event', h.due, h.listening, h.aborted, h.expired⟩

theorem pending (h : attempt.Alike attempt') (arrival : Option Nat) :
    attempt.pending arrival = attempt'.pending arrival := by
  rw [Attempt.pending, Attempt.pending, h.net.abortAt, h.net.clock, h.expired, h.due]

theorem fire (h : attempt.Alike attempt') (timer : Timer) :
    (attempt.fire timer).Alike (attempt'.fire timer) where
  net := ⟨by simpa using h.net.replies, by simpa using h.net.abortAt, by simp⟩
  due := by simpa using h.due
  listening := by rw [fire_listening, fire_listening, h.listening]
  aborted := by rw [fire_aborted, fire_aborted, h.aborted, h.listening]
  expired := by rw [fire_expired, fire_expired, h.expired]

theorem watch (h : attempt.Alike attempt') (heedsAbort : Bool) (timers : List Timer) :
    Option.Rel (Results Eq) (attempt.watch heedsAbort timers)
      (attempt'.watch heedsAbort timers) := by
  -- Both hear the same timers go off, so that an abort is heeded in both or in neither.
  induction timers generalizing attempt attempt' with
  | nil => exact .none
  | cons timer rest ih =>
    have fired := h.fire timer
    simp only [Attempt.watch, ← fired.aborted]
    split
    next => exact .some ⟨rfl, fired⟩
    next =>
      split
      next => exact .some ⟨rfl, fired⟩
      next => exact ih fired

theorem wait (h : attempt.Alike attempt') (pause : Pause) :
    Option.Rel (Results Eq) (attempt.wait pause) (attempt'.wait pause) := by
  simp only [Attempt.wait, ← h.aborted, ← h.pending, ← h.net.clock]
  split
  next => exact .some ⟨rfl, h⟩
  next =>
    cases pause.span with
    | instant => exact .some ⟨rfl, h⟩
    | lasting ms => exact h.watch _ _
    | endless => exact h.watch _ _

theorem deliver (h : attempt.Alike attempt') {response response' : Response}
    (responses : response.Alike response') :
    (attempt.deliver response).Alike (attempt'.deliver response') := by
  have bodies := responses.body
  unfold Attempt.deliver
  generalize response.body = body at bodies ⊢
  generalize response'.body = body' at bodies ⊢
  cases bodies with
  | none => exact h
  | some => exact h.note _ _

theorem receive (h : attempt.Alike attempt') {reply reply' : Reply} (replies : reply.Alike reply') :
    Option.Rel (Results (Except.Rel Response.Alike)) (attempt.receive reply)
      (attempt'.receive reply') := by
  cases replies with
  | thrown fault => exact .some ⟨.error fault, h⟩
  | later pause outcomes =>
    refine rel_bind (h.wait pause) fun (cut, after) (cut', after') ⟨same, alike⟩ => ?_
    cases same
    cases cut with
    | true => exact .some ⟨.error Fault.aborted, alike⟩
    | false =>
      cases outcomes with
      | error fault => exact .some ⟨.error fault, alike⟩
      | ok responses => exact .some ⟨.ok responses, alike.deliver responses⟩

theorem send (h : attempt.Alike attempt') {request request' : Request}
    (requests : request.Alike request') :
    Option.Rel (Results (Except.Rel Response.Alike)) (attempt.send request)
      (attempt'.send request') := by
  have sent := h.note (.sent request) (.sent request')
  have replies := sent.net.replies
  unfold Attempt.send
  cases hr : (attempt.note (.sent request)).net.replies with
  | nil =>
    rw [hr, List.forall₂_nil_left_iff] at replies
    have same : Fault.unexpected request' = .unexpected request := by
      rw [Fault.unexpected, Fault.unexpected, requests.url]
    simp only [hr, replies, same]
    exact .some ⟨.error _, sent⟩
  | cons reply rest =>
    rw [hr, List.forall₂_cons_left_iff] at replies
    obtain ⟨reply', rest', first, others, hr'⟩ := replies
    simp only [hr, hr']
    have left : ((attempt.note (.sent request)).withReplies rest).Alike
        ((attempt'.note (.sent request')).withReplies rest') :=
      ⟨⟨others, sent.net.abortAt, sent.net.clock⟩, sent.due, sent.listening, sent.aborted,
        sent.expired⟩
    exact left.receive first

theorem read (h : attempt.Alike attempt') {body body' : Body} (bodies : body.Alike body') :
    Option.Rel (Results (Except.Rel fun bytes bytes' => hasToken bytes = hasToken bytes'))
      (attempt.read body) (attempt'.read body') := by
  unfold Attempt.read
  rw [← bodies.pause, ← bodies.failure]
  refine rel_bind (h.wait body.pause) fun (cut, after) (cut', after') ⟨same, alike⟩ => ?_
  cases same
  have closed := alike.note .bodyClosed .bodyClosed
  cases cut with
  | true => exact .some ⟨.error Fault.aborted, closed⟩
  | false =>
    cases body.failure with
    | some fault => exact .some ⟨.error fault, closed⟩
    | none => exact .some ⟨.ok bodies.token, closed⟩

theorem clear (h : attempt.Alike attempt') : attempt.clear.Alike attempt'.clear :=
  ⟨by simpa using h.net.replies, by simpa using h.net.abortAt, by simpa using h.net.clock⟩

end Alike

end Attempt

structure Reading.Alike {α : Type} (R : α → α → Prop) (reading reading' : Reading α) : Prop where
  outcome : Outcome.Rel R reading.outcome reading'.outcome
  body : reading.body = reading'.body
  attempt : reading.attempt.Alike reading'.attempt

structure Exchange.Alike {α : Type} (R : α → α → Prop) (ex ex' : Exchange α) : Prop where
  outcome : Outcome.Rel R ex.outcome ex'.outcome
  call : ex.call.Alike ex'.call
  network : ex.network.Alike ex'.network

section Exchanges

variable {net net' : Network}

theorem Network.Alike.exchange {α : Type} {R : α → α → Prop} (h : net.Alike net') (timeout : Rat)
    (stage : Stage) {request request' : Request} (requests : request.Alike request')
    {reading : Response → Attempt → Option (Reading α)}
    (readings : ∀ response response' attempt attempt', response.Alike response' →
      attempt.Alike attempt' →
      Option.Rel (Reading.Alike R) (reading response attempt) (reading response' attempt')) :
    Option.Rel (Exchange.Alike R) (net.exchange timeout stage request reading)
      (net'.exchange timeout stage request' reading) := by
  have started := h.start timeout
  have sent := started.send requests
  refine rel_bind sent fun (answer, attempt) (answer', attempt') ⟨answers, attempts⟩ => ?_
  cases answers with
  | error fault =>
    refine .some ⟨?_, ⟨requests, h.clock, started.aborted, .failed fault⟩, attempts.clear⟩
    rw [attempts.expired]
    exact Outcome.rel_ofTrouble _ _
  | @ok response response' responses =>
    refine rel_bind (readings _ _ _ _ responses attempts) fun result result' results => ?_
    have released := results.attempt.clear.release responses result.body
    rw [← results.body]
    generalize result.attempt.clear.release response result.body = given at released ⊢
    generalize result'.attempt.clear.release response' result.body = given' at released ⊢
    obtain ⟨state, after⟩ := given
    obtain ⟨state', after'⟩ := given'
    obtain ⟨same, networks⟩ := released
    cases same
    exact .some ⟨results.outcome,
      ⟨requests, h.clock, started.aborted, .delivered responses state⟩, networks⟩

theorem readToken_alike (timeout : Rat) (response response' : Response)
    (attempt attempt' : Attempt) (responses : response.Alike response')
    (attempts : attempt.Alike attempt') :
    Option.Rel (Reading.Alike fun _ _ => True) (readToken timeout response attempt)
      (readToken timeout response' attempt') := by
  have bodies := responses.body
  unfold readToken
  rw [← responses.status]
  split
  next => exact .some ⟨.failed _, rfl, attempts⟩
  next =>
    generalize response.body = body at bodies ⊢
    generalize response'.body = body' at bodies ⊢
    cases bodies with
    | none => exact .some ⟨Outcome.rel_refl (fun _ => trivial) _, rfl, attempts⟩
    | some alike =>
      refine rel_bind (attempts.read alike)
        fun (content, after) (content', after') ⟨contents, afters⟩ => ?_
      cases contents with
      | error fault =>
        refine .some ⟨?_, rfl, afters⟩
        rw [afters.expired]
        exact Outcome.rel_ofTrouble _ _
      | @ok bytes bytes' same =>
        refine .some ⟨?_, rfl, afters⟩
        unfold hasToken at same
        cases ht : parseToken (bodyText bytes) <;> cases ht' : parseToken (bodyText bytes') <;>
          simp only [ht, ht', Option.isSome_none, Option.isSome_some, reduceCtorEq] at same
        · exact .failed _
        · exact .done trivial

theorem readLimits_alike (response response' : Response) (attempt attempt' : Attempt)
    (responses : response.Alike response') (attempts : attempt.Alike attempt') :
    Option.Rel (Reading.Alike Eq) (readLimits response attempt)
      (readLimits response' attempt') := by
  unfold readLimits
  rw [← responses.status, ← responses.headers]
  split
  next => exact .some ⟨.failed _, rfl, attempts⟩
  next => exact .some ⟨Outcome.rel_refl (fun _ => rfl) _, rfl, attempts⟩

end Exchanges

/-- Accounts of which neither is shown, or both are. -/
def Credentials.Alike (credentials credentials' : Credentials) : Prop :=
  credentials.authentication = credentials'.authentication

theorem Credentials.Alike.tokenRequest {credentials credentials' : Credentials}
    (h : credentials.Alike credentials') (urls : RegistryUrls) :
    (tokenRequest urls credentials).Alike (PullQuota.tokenRequest urls credentials') := by
  refine ⟨rfl, rfl, .cons ⟨rfl, fun _ => rfl⟩ ?_⟩
  rw [← h]
  split
  next => exact .cons ⟨rfl, fun secret => absurd rfl secret⟩ .nil
  next => exact .nil

theorem limitsRequest_alike (urls : RegistryUrls) (token token' : String) :
    (limitsRequest urls token).Alike (limitsRequest urls token') :=
  ⟨rfl, rfl, .cons ⟨rfl, fun secret => absurd rfl secret⟩ .nil⟩

structure Inquiry.Alike (inquiry inquiry' : Inquiry) : Prop where
  outcome : inquiry.outcome = inquiry'.outcome
  calls : List.Forall₂ Call.Alike inquiry.calls inquiry'.calls
  log : inquiry.log = inquiry'.log
  network : inquiry.network.Alike inquiry'.network

section Inquiries

variable {credentials credentials' : Credentials} {net net' : Network}

theorem fetchToken_alike (access : Access) (accounts : credentials.Alike credentials')
    (nets : net.Alike net') :
    Option.Rel (Exchange.Alike fun _ _ => True) (fetchToken access credentials net)
      (fetchToken access credentials' net') :=
  nets.exchange _ _ (accounts.tokenRequest access.urls) (readToken_alike access.timeout)

theorem fetchLimits_alike (access : Access) (token token' : String) (nets : net.Alike net') :
    Option.Rel (Exchange.Alike Eq) (fetchLimits access token net)
      (fetchLimits access token' net') :=
  nets.exchange _ _ (limitsRequest_alike access.urls token token') readLimits_alike

/-- Neither the account nor a token shows in an inquiry, but for what its requests show of them. -/
theorem fetchQuota_alike (access : Access) (accounts : credentials.Alike credentials')
    (nets : net.Alike net') :
    Option.Rel Inquiry.Alike (fetchQuota access credentials net)
      (fetchQuota access credentials' net') := by
  unfold fetchQuota
  rw [← accounts]
  -- Of two token requests both give a token or both fail alike, and only the token may differ.
  refine rel_bind (fetchToken_alike access accounts nets) fun first first' ⟨ends, call, after⟩ => ?_
  generalize first.outcome = outcome at ends ⊢
  generalize first'.outcome = outcome' at ends ⊢
  cases ends with
  | failed failure => exact .some ⟨rfl, .cons call .nil, rfl, after⟩
  | broken breakdown => exact .some ⟨rfl, .cons call .nil, rfl, after⟩
  | @done token token' =>
    refine rel_bind (fetchLimits_alike access token token' after) fun second second' limits => ?_
    have same := limits.outcome.eq
    exact .some ⟨same, .cons call (.cons limits.call .nil), by rw [same], limits.network⟩

end Inquiries

end PullQuota
