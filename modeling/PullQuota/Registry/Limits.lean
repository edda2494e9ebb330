import PullQuota.Quota
import PullQuota.Registry.Exchange
import PullQuota.Text.Count

/-!
The pull quota in the headers of the registry's answer.
-/

namespace PullQuota

def limitField : FieldName :=
  ⟨"RateLimit-Limit", by decide⟩

def remainingField : FieldName :=
  ⟨"RateLimit-Remaining", by decide⟩

/-- The count before the first semicolon of a header. -/
def readCount (headers : Headers) (name : FieldName) : Except HeaderFault Nat :=
  match headers.get? name with
  | none => .error .missing
  | some value =>
    if value = "" then .error .missing
    else
      let first := String.ofList (value.toList.takeWhile (· != ';'))
      match parseCount first with
      | some n => .ok n
      | none => .error (.malformed first)

def readQuota (headers : Headers) : Except Failure Quota :=
  match readCount headers limitField with
  | .error fault => .error (.badHeader limitField fault)
  | .ok limit =>
    match readCount headers remainingField with
    | .error fault => .error (.badHeader remainingField fault)
    | .ok remaining => .ok ⟨limit, remaining⟩

def limitsRequest (urls : RegistryUrls) (token : String) : Request where
  method := .head
  url := urls.limits
  headers := [("Authorization", "Bearer " ++ token)]

/-- The headers are enough; a body is not read. -/
def readLimits (response : Response) (attempt : Attempt) : Option (Reading Quota) :=
  if response.status ≠ 200 then
    some ⟨.failed (.refused .limits response.status), .unread, attempt⟩
  else some ⟨.ofExcept (readQuota response.headers), .unread, attempt⟩

def fetchLimits (access : Access) (token : String) (net : Network) : Option (Exchange Quota) :=
  net.exchange access.timeout .limits (limitsRequest access.urls token) readLimits

end PullQuota
