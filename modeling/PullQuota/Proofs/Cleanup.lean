import PullQuota.Proofs.Holdings
import PullQuota.Proofs.Inquiries

/-!
Every run that settles leaves nothing behind.
-/

namespace PullQuota

/-- A run that has made the calls: it gave back all that it took, and no body was left open. -/
structure Network.Cleaned (net : Network) (calls : List Call) (after : Network) : Prop where
  restores : net.Restores (calls.map (·.request)) after
  bodies : ∀ call ∈ calls, call.body? ≠ some .unread

/-- Runs that follow one another leave nothing behind if each of them does not. -/
theorem Network.Cleaned.trans {first second third : Network} {calls later : List Call}
    (h : first.Cleaned calls second) (h' : second.Cleaned later third) :
    first.Cleaned (calls ++ later) third where
  restores := by
    unfold Restores
    rw [List.map_append]
    exact h.restores.trans h'.restores
  bodies call mem := by
    rcases List.mem_append.mp mem with mem | mem
    · exact h.bodies call mem
    · exact h'.bodies call mem

section Cleaned

variable {access : Access} {net : Network}

theorem fetchToken_cleaned {credentials : Credentials} {ex : Exchange String}
    (h : fetchToken access credentials net = some ex) : net.Cleaned [ex.call] ex.network := by
  obtain ⟨restores, closed⟩ := Network.exchange_restores (readToken_accountable _) h
  exact ⟨restores, by simpa using closed⟩

theorem fetchLimits_cleaned {token : String} {ex : Exchange Quota}
    (h : fetchLimits access token net = some ex) : net.Cleaned [ex.call] ex.network := by
  obtain ⟨restores, closed⟩ := Network.exchange_restores readLimits_accountable h
  exact ⟨restores, by simpa using closed⟩

theorem fetchQuota_cleaned {credentials : Credentials} {inquiry : Inquiry}
    (h : fetchQuota access credentials net = some inquiry) :
    net.Cleaned inquiry.calls inquiry.network := by
  obtain ⟨first, hf, ⟨hc, hn, _⟩ | ⟨token, second, _, hs, hc, hn, _⟩⟩ := fetchQuota_eq_some h
  · rw [hc, hn]
    exact fetchToken_cleaned hf
  · rw [hc, hn]
    exact (fetchToken_cleaned hf).trans (fetchLimits_cleaned hs)

end Cleaned

/-- A request for a token or for the limits, and an inquiry that makes both, leave nothing behind
however they end. They end with a success or a failure, unless the last request failed before its
deadline with a fault that has no text. -/
theorem settled_cleaned (access : Access) (net : Network) :
    (∀ credentials ex, fetchToken access credentials net = some ex →
      net.Cleaned [ex.call] ex.network ∧
      ((∃ breakdown, ex.outcome = .broken breakdown) ↔
        ex.call.Untold access.timeout ex.network.clock)) ∧
    (∀ token ex, fetchLimits access token net = some ex →
      net.Cleaned [ex.call] ex.network ∧
      ((∃ breakdown, ex.outcome = .broken breakdown) ↔
        ex.call.Untold access.timeout ex.network.clock)) ∧
    (∀ credentials inquiry, fetchQuota access credentials net = some inquiry →
      net.Cleaned inquiry.calls inquiry.network ∧
      ((∃ breakdown, inquiry.outcome = .broken breakdown) ↔ inquiry.Untold access.timeout)) := by
  refine ⟨?_, ?_, ?_⟩
  · intro credentials ex h
    exact ⟨fetchToken_cleaned h, by simp [fetchToken_broken_iff h]⟩
  · intro token ex h
    exact ⟨fetchLimits_cleaned h, by simp [fetchLimits_broken_iff h]⟩
  · intro credentials inquiry h
    exact ⟨fetchQuota_cleaned h, by simp [fetchQuota_broken_iff h]⟩

/-- An inquiry that listens for its caller twice. -/
theorem settled_cleaned_listening : ∃ inquiry,
    fetchQuota {} .anonymous { Network.obliging with abortAt := some 3 } = some inquiry ∧
    Network.Cleaned { Network.obliging with abortAt := some 3 } inquiry.calls inquiry.network ∧
    inquiry.network.journal.requests.length = 2 ∧
    ¬ ∃ breakdown, inquiry.outcome = .broken breakdown := by
  have ended : (fetchQuota {} .anonymous { Network.obliging with abortAt := some 3 }).map
      (fun inquiry => (inquiry.outcome, inquiry.network.journal.requests.length)) =
      some (.done ⟨100, 76⟩, 2) := by
    decide +kernel
  obtain ⟨inquiry, h, hi⟩ := Option.map_eq_some_iff.mp ended
  obtain ⟨ho, hr⟩ := Prod.mk.inj hi
  obtain ⟨cleaned, _⟩ := (settled_cleaned {} _).2.2 .anonymous inquiry h
  exact ⟨inquiry, h, cleaned, hr, by simp [ho]⟩

theorem fetchToken_mute_breaks_down : ∃ ex,
    fetchToken {} .anonymous .mute = some ex ∧ ex.outcome = .broken .untold :=
  ⟨_, rfl, rfl⟩

end PullQuota
