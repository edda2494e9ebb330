import PullQuota.Registry.Outcome

/-!
One request under a deadline of its own, from the start of its timer to the release of its response.
-/

namespace PullQuota

/-- The places of the token service and of the registry. -/
structure RegistryUrls where
  token : String
  limits : String
  deriving DecidableEq

def RegistryUrls.standard : RegistryUrls where
  token := "https://auth.docker.io/token?service=registry.docker.io&scope=repository:ratelimitpreview/test:pull"
  limits := "https://registry-1.docker.io/v2/ratelimitpreview/test/manifests/latest"

/-- How the registry is asked: where, and how long each request may take. -/
structure Access where
  urls : RegistryUrls := .standard
  timeout : Rat := 10000

structure Exchange (α : Type) where
  outcome : Outcome α
  call : Call
  network : Network

/-- What reading a response gave, and what became of its body by that. -/
structure Reading (α : Type) where
  outcome : Outcome α
  body : BodyState
  attempt : Attempt

/-- Sends a request and reads its response. Whatever it comes to, the deadline is given back and the
body does not stay open; there is no result if it waits for something that never comes. -/
def Network.exchange {α : Type} (net : Network) (timeout : Rat) (stage : Stage) (request : Request)
    (reading : Response → Attempt → Option (Reading α)) : Option (Exchange α) := do
  let started := net.start timeout
  let call := Call.mk request net.clock started.aborted
  let (answer, attempt) ← started.send request
  match answer with
  | .error fault =>
    some ⟨.ofTrouble (.unanswered stage) (Trouble.of? attempt.expired timeout fault),
      call (.failed fault), attempt.clear⟩
  | .ok response =>
    let result ← reading response attempt
    let (body, net) := result.attempt.clear.release response result.body
    some ⟨result.outcome, call (.delivered response body), net⟩

end PullQuota
