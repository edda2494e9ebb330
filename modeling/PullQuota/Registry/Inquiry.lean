import PullQuota.Log
import PullQuota.Registry.Limits
import PullQuota.Registry.Token

/-!
The whole inquiry: a token first, then the limits that hold for its bearer.
-/

namespace PullQuota

structure Inquiry where
  outcome : Outcome Quota
  calls : List Call
  log : List LogLine
  network : Network

def accessName (authenticated : Bool) : String :=
  if authenticated then "authenticated" else "anonymous"

def quotaLine (quota : Quota) : LogLine :=
  .debug ("DockerHub rate limit: " ++ quota.remainingText ++ "/" ++ quota.limitText ++
    " remaining")

/-- Without a token the registry is not asked. -/
def fetchQuota (access : Access) (credentials : Credentials) (net : Network) : Option Inquiry := do
  let asking : LogLine :=
    .debug ("Requesting DockerHub token (" ++ accessName credentials.authentication ++ ")")
  let token ← fetchToken access credentials net
  match token.outcome with
  | .failed failure => some ⟨.failed failure, [token.call], [asking], token.network⟩
  | .broken breakdown => some ⟨.broken breakdown, [token.call], [asking], token.network⟩
  | .done bearer =>
    let limits ← fetchLimits access bearer token.network
    let log := [asking, .debug "Received DockerHub token"]
    some ⟨limits.outcome, [token.call, limits.call],
      match limits.outcome with
      | .done quota => log ++ [quotaLine quota]
      | _ => log,
      limits.network⟩

end PullQuota
