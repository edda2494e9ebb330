import PullQuota.Header
import PullQuota.Network.Clock

/-!
Why the registry's quota could not be read, and how that is reported.
-/

namespace PullQuota

/-- Why a request or the reading of its body did not come to an end. -/
inductive Trouble
  | timeout (ms : Rat)
  | aborted
  | network (reason : String)
  deriving DecidableEq

namespace Trouble

/-- The trouble that a fault tells of. A deadline that has passed comes before what was thrown, and
a fault without a text tells of nothing else. -/
def of? (expired : Bool) (ms : Rat) (fault : Fault) : Option Trouble :=
  if expired then some (timeout ms)
  else if fault.isAbort then some aborted
  else fault.text?.map network

theorem of?_eq_none_iff {expired : Bool} {ms : Rat} {fault : Fault} :
    of? expired ms fault = none ↔ expired = false ∧ fault.text? = none := by
  cases expired with
  | true => simp [of?]
  | false =>
    cases fault with
    | error name message =>
      simp only [of?, Fault.text?, Bool.false_eq_true, if_false]
      split <;> simp
    | value v => simp [of?, Fault.isAbort, Fault.text?]

def message : Trouble → String
  | timeout ms => "Request timeout: DockerHub did not respond within " ++
      (Number.finite ms).text ++ "ms"
  | aborted => "Request aborted"
  | network reason => "Network error: " ++ reason

end Trouble

inductive HeaderFault
  | missing
  | malformed (text : String)
  deriving DecidableEq

def HeaderFault.message (name : FieldName) : HeaderFault → String
  | missing => "Missing " ++ name.text ++ " header"
  | malformed text => "invalid integer \"" ++ text ++ "\""

/-- The two requests: one to the token service, one to the registry. -/
inductive Stage
  | token
  | limits
  deriving DecidableEq

inductive Failure
  | unanswered (stage : Stage) (trouble : Trouble)
  | refused (stage : Stage) (status : Nat)
  | brokenToken (trouble : Trouble)
  | unreadableToken
  | badHeader (name : FieldName) (fault : HeaderFault)
  deriving DecidableEq

inductive FailureKind
  | auth
  | rateLimit
  | protocol
  deriving DecidableEq

inductive FailureCause
  | transport
  | timeout
  | unexpectedStatus
  | decode
  | missingHeader
  | malformedHeader
  deriving DecidableEq

def Trouble.cause : Trouble → FailureCause
  | timeout _ => .timeout
  | aborted => .transport
  | network _ => .transport

def HeaderFault.cause : HeaderFault → FailureCause
  | missing => .missingHeader
  | malformed _ => .malformedHeader

namespace Failure

def kind : Failure → FailureKind
  | unanswered .token _ => .auth
  | unanswered .limits _ => .rateLimit
  | refused .token _ => .auth
  | refused .limits _ => .rateLimit
  | brokenToken _ => .auth
  | unreadableToken => .auth
  | badHeader _ _ => .protocol

def cause : Failure → FailureCause
  | unanswered _ trouble => trouble.cause
  | refused _ _ => .unexpectedStatus
  | brokenToken trouble => trouble.cause
  | unreadableToken => .decode
  | badHeader _ fault => fault.cause

def message : Failure → String
  | unanswered _ trouble => trouble.message
  | refused .token _ => "failed fetching dockerhub token"
  | refused .limits _ => "failed fetching dockerhub limits"
  | brokenToken trouble => trouble.message
  | unreadableToken => "failed decoding dockerhub token response"
  | badHeader name fault => "Failed fetching " ++ name.text ++ " header: " ++ fault.message name

/-- The status of the response, if one was received. -/
def status : Failure → Option Nat
  | unanswered _ _ => none
  | refused _ status => some status
  | brokenToken _ => some 200
  | unreadableToken => some 200
  | badHeader _ _ => some 200

/-- The token service refused the account that it was shown. -/
def credentialsRejected : Failure → Bool
  | refused .token status => status == 401 || status == 403
  | _ => false

end Failure

end PullQuota
