import PullQuota.Number.Decimal

/-!
Pull quotas: the share that is used, and what is worth a warning.
-/

namespace PullQuota

/-- A pull quota. The registry sends counts; a report takes any numbers. -/
structure Quota where
  limit : Rat
  remaining : Rat
  deriving DecidableEq

namespace Quota

def limitText (quota : Quota) : String :=
  (Number.finite quota.limit).text

def remainingText (quota : Quota) : String :=
  (Number.finite quota.remaining).text

/-- The pulls that are used; never less than none. -/
def used (quota : Quota) : Number :=
  match Number.nearest (quota.limit - quota.remaining) with
  | .finite n => .finite (if n < 0 then 0 else n)
  | .infinite negative => if negative then .finite 0 else .infinite false

/-- The used share in whole percents, computed in binary64: the quotient, then the product with a
hundred, then the nearest integer. All of a limit of zero is used. -/
def percentUsed (quota : Quota) : Number :=
  if quota.limit = 0 then .finite 100
  else
    match quota.used with
    | .finite used =>
      (Number.nearest (used / quota.limit)).andThen fun share =>
        (Number.nearest (share * 100)).andThen fun percents => .finite (nearestUp percents)
    | .infinite _ => .infinite (quota.limit < 0)

def percentText (quota : Quota) : String :=
  quota.percentUsed.text ++ "%"

end Quota

inductive Warning
  | exhausted
  | low (quota : Quota)
  | overLimit (quota : Quota)

def Warning.message : Warning → String
  | exhausted => "DockerHub pull quota exhausted; pulls will fail until the window resets"
  | low quota => "Only " ++ quota.remainingText ++ " DockerHub pull(s) left in the current window"
  | overLimit quota =>
    "Registry reported more remaining pulls (" ++ quota.remainingText ++ ") than the limit (" ++
      quota.limitText ++ ")"

/-- An exhausted quota always warns, a low one from the threshold on. -/
def Quota.warnings (quota : Quota) (threshold : Rat) : List Warning :=
  (if quota.remaining = 0 then [.exhausted]
    else if quota.remaining ≤ threshold then [.low quota] else []) ++
  if quota.limit < quota.remaining then [.overLimit quota] else []

end PullQuota
