import PullQuota.Header
import PullQuota.Json.Basic

/-!
Requests, the answers to them, and what is recorded of an exchange.
-/

namespace PullQuota

inductive Method
  | get
  | head
  deriving DecidableEq

structure Request where
  method : Method
  url : String
  headers : List (String × String)
  deriving DecidableEq

/-- What a request or a body fails with: a named error, or a bare value. -/
inductive Fault
  | error (name message : String)
  | value (value : Json)
  deriving DecidableEq

namespace Fault

/-- The failure of what waits for an aborted signal. -/
def aborted : Fault :=
  error "AbortError" "The operation was aborted"

/-- The failure of a request that nothing answers. -/
def unexpected (request : Request) : Fault :=
  error "Error" ("Unexpected request to " ++ request.url)

def isAbort : Fault → Bool
  | error name _ => name == "AbortError"
  | value _ => false

/-- The text of a fault. Not every value has one. -/
def text? : Fault → Option String
  | error _ message => some message
  | value v => v.plainText?

end Fault

/-- How long a wait takes: no time, a time in milliseconds, or for ever. -/
inductive Span
  | instant
  | lasting (ms : Rat)
  | endless
  deriving DecidableEq

/-- A wait before an answer or a body, and whether an abort cuts it short. -/
structure Pause where
  span : Span
  heedsAbort : Bool
  deriving DecidableEq

/-- A body: its chunks come after the pause, and after them the failure, if there is one. -/
structure Body where
  pause : Pause
  chunks : List (List UInt8)
  failure : Option Fault
  cancelFailure : Option Fault
  deriving DecidableEq

structure Response where
  status : Nat
  headers : Headers
  body : Option Body
  deriving DecidableEq

/-- What the other side does with a request. -/
inductive Reply
  | thrown (fault : Fault)
  | later (pause : Pause) (outcome : Except Fault Response)

/-- What became of the body of a delivered response. -/
inductive BodyState
  | absent
  | unread
  | consumed
  | errored (fault : Fault)
  | cancelled
  deriving DecidableEq

/-- What a request came to: a fault, or a response with what became of its body. -/
inductive Ending
  | failed (fault : Fault)
  | delivered (response : Response) (body : BodyState)
  deriving DecidableEq

/-- A request that was made: when, whether its signal was aborted by then, and what it came to. -/
structure Call where
  request : Request
  time : Nat
  aborted : Bool
  ending : Ending
  deriving DecidableEq

namespace Call

def response? (call : Call) : Option Response :=
  match call.ending with
  | .failed _ => none
  | .delivered response _ => some response

def body? (call : Call) : Option BodyState :=
  match call.ending with
  | .failed _ => none
  | .delivered _ body => some body

/-- What a call failed with: the request itself, or the reading of the body. -/
def fault? (call : Call) : Option Fault :=
  match call.ending with
  | .failed fault => some fault
  | .delivered _ (.errored fault) => some fault
  | .delivered _ _ => none

end Call

/-- Cancels a body: its stream has ended also when cancelling failed. -/
def Body.cancel (body : Body) : BodyState × Option Fault :=
  (.cancelled, body.cancelFailure)

end PullQuota
