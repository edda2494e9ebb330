import PullQuota.Network.Message

/-!
The journal of a run: what is taken and given back, and the requests that are sent meanwhile.
-/

namespace PullQuota

/-- Something that happens to the timer of a deadline, to a listener for the caller's abort or to
the body of a response, or a request that is sent. -/
inductive Event
  | timerSet
  | timerFired
  | timerCleared
  | listenerAdded
  | listenerCalled
  | listenerRemoved
  | sent (request : Request)
  | bodyOpened
  | bodyClosed
  deriving DecidableEq

/-- What is held: pending timers, listeners, and open bodies. -/
structure Holdings where
  timers : Int
  listeners : Int
  bodies : Int
  deriving DecidableEq

namespace Holdings

def none : Holdings :=
  ⟨0, 0, 0⟩

instance : Add Holdings :=
  ⟨fun a b => ⟨a.timers + b.timers, a.listeners + b.listeners, a.bodies + b.bodies⟩⟩

@[ext] theorem ext {a b : Holdings} (timers : a.timers = b.timers)
    (listeners : a.listeners = b.listeners) (bodies : a.bodies = b.bodies) : a = b := by
  cases a
  cases b
  simp_all

@[simp] theorem mk_add_mk (t l b t' l' b' : Int) :
    (⟨t, l, b⟩ + ⟨t', l', b'⟩ : Holdings) = ⟨t + t', l + l', b + b'⟩ := rfl

@[simp] theorem none_add (a : Holdings) : none + a = a := by
  ext <;> exact Int.zero_add _

@[simp] theorem add_none (a : Holdings) : a + none = a := by
  ext <;> exact Int.add_zero _

theorem add_assoc (a b c : Holdings) : a + b + c = a + (b + c) := by
  ext <;> exact Int.add_assoc _ _ _

end Holdings

/-- How an event changes what is held. A listener that was called is gone. -/
def Event.change : Event → Holdings
  | timerSet => ⟨1, 0, 0⟩
  | timerFired | timerCleared => ⟨-1, 0, 0⟩
  | listenerAdded => ⟨0, 1, 0⟩
  | listenerCalled | listenerRemoved => ⟨0, -1, 0⟩
  | sent _ => .none
  | bodyOpened => ⟨0, 0, 1⟩
  | bodyClosed => ⟨0, 0, -1⟩

abbrev Journal := List Event

namespace Journal

/-- What is held after the events of a journal. -/
def holdings : Journal → Holdings
  | [] => .none
  | event :: rest => event.change + holdings rest

@[simp] theorem holdings_append (journal later : Journal) :
    holdings (journal ++ later) = holdings journal + holdings later := by
  induction journal with
  | nil => simp [holdings]
  | cons event rest ih => simp [holdings, ih, Holdings.add_assoc]

end Journal

end PullQuota
