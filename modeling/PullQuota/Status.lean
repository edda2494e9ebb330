import PullQuota.Registry.Inquiry
import PullQuota.Store

/-!
The quota of an environment. All local checks come before the first request goes out.
-/

namespace PullQuota

/-- Why an environment has no quota to show. -/
inductive Refusal
  | badId (text : String)
  | unknownEndpoint (reason : String)
  | endpointUnavailable (reason : String)
  | remoteEndpoint (endpoint : Endpoint)
  | credentialsUnavailable (reason : String)
  | registry (failure : Failure)
  deriving DecidableEq

inductive RefusalKind
  | invalidInput
  | notFound
  | unsupportedEndpointType
  | storage
  | registry (kind : FailureKind)
  deriving DecidableEq

namespace RefusalKind

def all : List RefusalKind :=
  [invalidInput, notFound, unsupportedEndpointType, storage, registry .auth, registry .rateLimit,
    registry .protocol]

def name : RefusalKind → String
  | invalidInput => "invalid_input"
  | notFound => "not_found"
  | unsupportedEndpointType => "unsupported_endpoint_type"
  | storage => "storage"
  | registry .auth => "upstream_auth"
  | registry .rateLimit => "upstream_rate_limit"
  | registry .protocol => "upstream_protocol"

def ofName? (s : String) : Option RefusalKind :=
  all.find? (·.name == s)

def httpStatus : RefusalKind → Nat
  | invalidInput => 400
  | unsupportedEndpointType => 400
  | notFound => 404
  | storage => 500
  | registry _ => 500

end RefusalKind

/-- What a failure is reported with: its text, and the status if that was the failure. -/
def Failure.details (failure : Failure) : String :=
  let http := " (HTTP " ++ (failure.status.map toString).getD "unknown" ++ ")"
  if failure.credentialsRejected then "DockerHub rejected the stored credentials" ++ http
  else if failure.cause = .unexpectedStatus ∧ failure.status.isSome then failure.message ++ http
  else failure.message

namespace Refusal

def kind : Refusal → RefusalKind
  | badId _ => .invalidInput
  | unknownEndpoint _ => .notFound
  | endpointUnavailable _ => .storage
  | remoteEndpoint _ => .unsupportedEndpointType
  | credentialsUnavailable _ => .storage
  | registry failure => .registry failure.kind

def message : Refusal → String
  | badId _ => "Invalid endpoint identifier route variable"
  | unknownEndpoint _ | endpointUnavailable _ =>
    "Unable to find an endpoint with the specified identifier inside the database"
  | remoteEndpoint _ => "Invalid environment type"
  | credentialsUnavailable _ => "Unable to retrieve DockerHub details from the database"
  | registry failure =>
    match failure.kind with
    | .auth => "Unable to retrieve DockerHub token from DockerHub"
    | .rateLimit | .protocol => "Unable to retrieve DockerHub rate limits from DockerHub"

def details : Refusal → String
  | badId text => "Expected a positive integer, got \"" ++ text ++ "\""
  | unknownEndpoint reason => reason
  | endpointUnavailable reason => reason
  | remoteEndpoint endpoint => endpoint.remoteReason
  | credentialsUnavailable reason => reason
  | registry failure => failure.details

end Refusal

/-- The end of a question for an environment's quota. -/
inductive Resolution
  | quota (quota : Quota)
  | refused (refusal : Refusal)
  | broken (breakdown : Breakdown)
  deriving DecidableEq

structure Resolved where
  resolution : Resolution
  calls : List Call
  log : List LogLine
  network : Network

/-- An end that was reached without a request. -/
def Resolved.locally (net : Network) (resolution : Resolution) : Resolved :=
  ⟨resolution, [], [], net⟩

def Resolution.ofOutcome : Outcome Quota → Resolution
  | .done value => .quota value
  | .failed failure => .refused (.registry failure)
  | .broken breakdown => .broken breakdown

def askRegistry (access : Access) (credentials : Credentials) (net : Network) : Option Resolved :=
  (fetchQuota access credentials net).map fun inquiry =>
    ⟨.ofOutcome inquiry.outcome, inquiry.calls, inquiry.log, inquiry.network⟩

/-- The id, the environment, its kind and the account are checked in this order. -/
def resolveStatus (store : Store) (access : Access) (id : String) (net : Network) :
    Option Resolved :=
  match parseCount id with
  | none | some 0 => some (.locally net (.refused (.badId id)))
  | some n =>
    match store.endpoint n with
    | .unknown reason => some (.locally net (.refused (.unknownEndpoint reason)))
    | .failed reason => some (.locally net (.refused (.endpointUnavailable reason)))
    | .broken message => some (.locally net (.broken (.store message)))
    | .found endpoint =>
      if endpoint.isLocal then
        match store.credentials with
        | .error reason => some (.locally net (.refused (.credentialsUnavailable reason)))
        | .ok credentials => askRegistry access credentials net
      else some (.locally net (.refused (.remoteEndpoint endpoint)))

end PullQuota
