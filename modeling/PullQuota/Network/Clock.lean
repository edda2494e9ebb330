import PullQuota.Network.Journal

/-!
The network as a run meets it: a clock in milliseconds, the replies still to come, and a caller who
may abort. A request is an attempt under a deadline, and while it waits, timers go off one by one.
-/

namespace PullQuota

structure Network where
  replies : List Reply
  abortAt : Option Nat := none
  clock : Nat := 0
  journal : Journal := []

/-- A timer waits whole milliseconds, and 1 ms if its delay is out of range. -/
def timerDelay (ms : Rat) : Nat :=
  if 1 ≤ ms ∧ ms ≤ 2147483647 then ms.floor.toNat else 1

theorem timerDelay_pos (ms : Rat) : 0 < timerDelay ms := by
  unfold timerDelay
  split
  next h =>
    have := Rat.le_floor_iff.mpr (show ((1 : Int) : Rat) ≤ ms from h.1)
    omega
  next => exact Nat.one_pos

/-- What a timer is for: the caller's abort, the deadline of a request, or the end of a wait. -/
inductive Alarm
  | abort
  | deadline
  | arrival
  deriving DecidableEq

structure Timer where
  due : Nat
  alarm : Alarm
  deriving DecidableEq

namespace Timer

/-- Puts a timer in front of those that are not due before it. -/
def insert (timer : Timer) : List Timer → List Timer
  | [] => [timer]
  | next :: rest =>
    if timer.due ≤ next.due then timer :: next :: rest else next :: timer.insert rest

/-- Timers in the order in which they go off: of those due at the same time, the one that was set
first. They are given in the order in which they were set. -/
def inOrder (timers : List Timer) : List Timer :=
  timers.foldr insert []

end Timer

/-- A request under way: the time of its deadline, whether it still listens for the caller's abort,
whether its signal is aborted, and whether its deadline has passed. -/
structure Attempt where
  net : Network
  due : Nat
  listening : Bool
  aborted : Bool
  expired : Bool

namespace Network

def note (net : Network) (event : Event) : Network :=
  { net with journal := net.journal ++ [event] }

def callerAborted (net : Network) : Bool :=
  net.abortAt.any (· ≤ net.clock)

/-- Sets the timer of a deadline. A caller who has aborted already is not listened to any more. -/
def start (net : Network) (timeout : Rat) : Attempt :=
  let listening := net.abortAt.isSome && !net.callerAborted
  let timed := net.note .timerSet
  { net := if listening then timed.note .listenerAdded else timed
    due := net.clock + timerDelay timeout
    listening
    aborted := net.callerAborted
    expired := false }

section Start

variable (net : Network) (timeout : Rat)

@[simp] theorem start_clock : (net.start timeout).net.clock = net.clock := by
  unfold start
  cases net.abortAt.isSome && !net.callerAborted <;> rfl

@[simp] theorem start_abortAt : (net.start timeout).net.abortAt = net.abortAt := by
  unfold start
  cases net.abortAt.isSome && !net.callerAborted <;> rfl

@[simp] theorem start_replies : (net.start timeout).net.replies = net.replies := by
  unfold start
  cases net.abortAt.isSome && !net.callerAborted <;> rfl

end Start

end Network

namespace Attempt

def note (attempt : Attempt) (event : Event) : Attempt :=
  { attempt with net := attempt.net.note event }

section Note

variable (attempt : Attempt) (event : Event)

@[simp] theorem note_clock : (attempt.note event).net.clock = attempt.net.clock := rfl

@[simp] theorem note_abortAt : (attempt.note event).net.abortAt = attempt.net.abortAt := rfl

@[simp] theorem note_replies : (attempt.note event).net.replies = attempt.net.replies := rfl

@[simp] theorem note_expired : (attempt.note event).expired = attempt.expired := rfl

end Note

/-- The timers that are pending during a wait, in the order in which they were set: the caller's is
older than the attempt. -/
def pending (attempt : Attempt) (arrival : Option Nat) : List Timer :=
  (attempt.net.abortAt.filter (attempt.net.clock < ·)).toList.map (⟨·, .abort⟩) ++
    (if attempt.expired then [] else [⟨attempt.due, .deadline⟩]) ++
    arrival.toList.map (⟨·, .arrival⟩)

/-- A timer goes off. The caller's abort reaches only who listens for it, and only once. -/
def fire (attempt : Attempt) (timer : Timer) : Attempt :=
  let attempt := { attempt with net := { attempt.net with clock := timer.due } }
  match timer.alarm with
  | .abort =>
    if attempt.listening then
      { attempt.note .listenerCalled with listening := false, aborted := true }
    else attempt
  | .deadline => { attempt.note .timerFired with aborted := true, expired := true }
  | .arrival => attempt

section Fire

variable (attempt : Attempt) (timer : Timer)

@[simp] theorem fire_clock : (attempt.fire timer).net.clock = timer.due := by
  unfold fire
  cases timer.alarm <;> cases attempt.listening <;> rfl

@[simp] theorem fire_due : (attempt.fire timer).due = attempt.due := by
  unfold fire
  cases timer.alarm <;> cases attempt.listening <;> rfl

@[simp] theorem fire_abortAt : (attempt.fire timer).net.abortAt = attempt.net.abortAt := by
  unfold fire
  cases timer.alarm <;> cases attempt.listening <;> rfl

@[simp] theorem fire_replies : (attempt.fire timer).net.replies = attempt.net.replies := by
  unfold fire
  cases timer.alarm <;> cases attempt.listening <;> rfl

@[simp] theorem fire_expired :
    (attempt.fire timer).expired = (attempt.expired || decide (timer.alarm = .deadline)) := by
  unfold fire
  cases timer.alarm <;> cases attempt.listening <;> simp [note]

end Fire

/-- Lets timers go off up to the arrival, or up to an abort that is heeded; tells whether one was.
Without either the wait never ends. -/
def watch (heedsAbort : Bool) : List Timer → Attempt → Option (Bool × Attempt)
  | [], _ => none
  | timer :: rest, attempt =>
    let attempt := attempt.fire timer
    if timer.alarm = .arrival then some (false, attempt)
    else if heedsAbort && attempt.aborted then some (true, attempt)
    else attempt.watch heedsAbort rest

/-- Waits out a pause, or up to the abort that cuts it short; tells whether one did. -/
def wait (attempt : Attempt) (pause : Pause) : Option (Bool × Attempt) :=
  if pause.heedsAbort && attempt.aborted then some (true, attempt)
  else
    match pause.span with
    | .instant => some (false, attempt)
    | .lasting ms =>
      attempt.watch pause.heedsAbort
        (Timer.inOrder (attempt.pending (some (attempt.net.clock + timerDelay ms))))
    | .endless => attempt.watch pause.heedsAbort (Timer.inOrder (attempt.pending none))

/-- A delivered response opens its body, if it has one. -/
def deliver (attempt : Attempt) (response : Response) : Attempt :=
  if response.body.isSome then attempt.note .bodyOpened else attempt

section Deliver

variable (attempt : Attempt) (response : Response)

@[simp] theorem deliver_clock : (attempt.deliver response).net.clock = attempt.net.clock := by
  unfold deliver
  cases response.body.isSome <;> rfl

@[simp] theorem deliver_abortAt :
    (attempt.deliver response).net.abortAt = attempt.net.abortAt := by
  unfold deliver
  cases response.body.isSome <;> rfl

@[simp] theorem deliver_replies :
    (attempt.deliver response).net.replies = attempt.net.replies := by
  unfold deliver
  cases response.body.isSome <;> rfl

@[simp] theorem deliver_expired :
    (attempt.deliver response).expired = attempt.expired := by
  unfold deliver
  cases response.body.isSome <;> rfl

@[simp] theorem deliver_due : (attempt.deliver response).due = attempt.due := by
  unfold deliver
  cases response.body.isSome <;> rfl

end Deliver

/-- What comes back from a reply. -/
def receive (attempt : Attempt) : Reply → Option (Except Fault Response × Attempt)
  | .thrown fault => some (.error fault, attempt)
  | .later pause outcome => do
    let (cut, attempt) ← attempt.wait pause
    if cut then some (.error .aborted, attempt)
    else
      match outcome with
      | .error fault => some (.error fault, attempt)
      | .ok response => some (.ok response, attempt.deliver response)

def withReplies (attempt : Attempt) (replies : List Reply) : Attempt :=
  { attempt with net := { attempt.net with replies } }

/-- Sends a request, to which the next reply is given. Without one the request is refused. -/
def send (attempt : Attempt) (request : Request) : Option (Except Fault Response × Attempt) :=
  let attempt := attempt.note (.sent request)
  match attempt.net.replies with
  | [] => some (.error (.unexpected request), attempt)
  | reply :: rest => (attempt.withReplies rest).receive reply

/-- Reads a body to its end, or to its fault. -/
def read (attempt : Attempt) (body : Body) : Option (Except Fault (List UInt8) × Attempt) := do
  let (cut, attempt) ← attempt.wait body.pause
  let attempt := attempt.note .bodyClosed
  if cut then some (.error .aborted, attempt)
  else
    match body.failure with
    | some fault => some (.error fault, attempt)
    | none => some (.ok body.chunks.flatten, attempt)

/-- Gives the deadline back: its timer, if that has not gone off, and the listener. -/
def clear (attempt : Attempt) : Network :=
  let net := if attempt.expired then attempt.net else attempt.net.note .timerCleared
  if attempt.listening then net.note .listenerRemoved else net

section Clear

variable (attempt : Attempt)

@[simp] theorem clear_clock : attempt.clear.clock = attempt.net.clock := by
  unfold clear
  cases attempt.expired <;> cases attempt.listening <;> rfl

@[simp] theorem clear_abortAt : attempt.clear.abortAt = attempt.net.abortAt := by
  unfold clear
  cases attempt.expired <;> cases attempt.listening <;> rfl

@[simp] theorem clear_replies : attempt.clear.replies = attempt.net.replies := by
  unfold clear
  cases attempt.expired <;> cases attempt.listening <;> rfl

end Clear

end Attempt

/-- Gives back a response that is no longer needed. A body that was not read is cancelled; whether
that fails is of no account. -/
def Network.release (net : Network) (response : Response) : BodyState → BodyState × Network
  | .unread =>
    match response.body with
    | some body => (body.cancel.1, net.note .bodyClosed)
    | none => (.absent, net)
  | state => (state, net)

section Release

variable (net : Network) (response : Response) (state : BodyState)

@[simp] theorem Network.release_clock : (net.release response state).2.clock = net.clock := by
  unfold release
  cases state <;> cases response.body <;> rfl

@[simp] theorem Network.release_abortAt : (net.release response state).2.abortAt = net.abortAt := by
  unfold release
  cases state <;> cases response.body <;> rfl

@[simp] theorem Network.release_replies : (net.release response state).2.replies = net.replies := by
  unfold release
  cases state <;> cases response.body <;> rfl

end Release

end PullQuota
