import PullQuota.Proofs.Alarms
import Mathlib.Data.ENat.Lattice

/-!
What ends a wait that heeds the abort: the caller, the deadline or its own end.
-/

namespace PullQuota

/-- The time of a wait that nothing cuts short. -/
def Span.length : Span → ℕ∞
  | instant => 0
  | lasting ms => timerDelay ms
  | endless => ⊤

namespace Attempt

/-- Nothing has aborted an attempt yet: it listens for a caller who may abort later, and its
deadline is ahead. -/
structure Live (attempt : Attempt) : Prop where
  aborted : attempt.aborted = false
  expired : attempt.expired = false
  listening : attempt.listening = attempt.net.abortAt.isSome
  caller : ∀ time, attempt.net.abortAt = some time → attempt.net.clock < time
  early : attempt.net.clock < attempt.due

/-- What a wait comes to whose own end is at a time. Of what happens at the same time the caller's
abort comes first and the end last. -/
inductive Race (attempt : Attempt) (own : ℕ∞) : Option (Bool × Attempt) → Prop
  | abort (time : Nat) (caller : attempt.net.abortAt = some time) (due : time ≤ attempt.due)
      (before : time ≤ own) : Race attempt own (some (true, attempt.fire ⟨time, .abort⟩))
  | deadline (caller : ∀ time, attempt.net.abortAt = some time → attempt.due < time)
      (before : attempt.due ≤ own) :
      Race attempt own (some (true, attempt.fire ⟨attempt.due, .deadline⟩))
  | arrival (finish : Nat) (caller : ∀ time, attempt.net.abortAt = some time → finish < time)
      (due : finish < attempt.due) (ends : own = finish) :
      Race attempt own (some (false, attempt.fire ⟨finish, .arrival⟩))

variable {attempt : Attempt}

section Watch

variable {arrival : Option Nat}

/-- The first of the timers ends the wait, whatever it is for. An arrival also ends a wait that
heeds no abort. -/
theorem Live.watch_first {heedsAbort : Bool} (h : attempt.Live) (timer : Timer)
    (heeds : timer.alarm ≠ .arrival → heedsAbort = true) (mem : timer ∈ attempt.pending arrival)
    (first : ∀ other ∈ attempt.pending arrival, other = timer ∨ timer.Before other) :
    attempt.watch heedsAbort (Timer.inOrder (attempt.pending arrival)) =
      some (timer.alarm != .arrival, attempt.fire timer) := by
  obtain ⟨rest, hs⟩ := Timer.inOrder_eq_cons (attempt.pending_pairwise arrival) mem first
  rw [hs]
  obtain ⟨due, alarm⟩ := timer
  cases alarm with
  | abort =>
    -- The caller's timer is pending, so it is a caller who is listened to.
    have listening : attempt.listening = true := by
      rcases mem_pending.mp mem with ⟨_, caller, _⟩ | ⟨heq, _⟩ | ⟨heq, _⟩
      · simp [h.listening, caller]
      · cases heq
      · cases heq
    simp [Attempt.watch, Attempt.fire, listening, heeds]
  | deadline => simp [Attempt.watch, Attempt.fire, heeds]
  | arrival => simp [Attempt.watch]

theorem Live.watch_abort {time : Nat} (h : attempt.Live)
    (caller : attempt.net.abortAt = some time) (due : time ≤ attempt.due)
    (before : ∀ finish ∈ arrival, time ≤ finish) :
    attempt.watch true (Timer.inOrder (attempt.pending arrival)) =
      some (true, attempt.fire ⟨time, .abort⟩) := by
  refine h.watch_first ⟨time, .abort⟩ (fun _ => rfl)
    (mem_pending.mpr (Or.inl ⟨rfl, caller, h.caller time caller⟩)) ?_
  rintro ⟨other, alarm⟩ mem
  rcases mem_pending.mp mem with ⟨rfl, caller', _⟩ | ⟨heq, _⟩ | ⟨rfl, finish⟩
  · cases Option.some.inj (caller.symm.trans caller')
    exact Or.inl rfl
  · cases heq
    exact Or.inr (.of_le due (by simp [Alarm.rank]))
  · exact Or.inr (.of_le (before other finish) (by simp [Alarm.rank]))

theorem Live.watch_deadline (h : attempt.Live)
    (caller : ∀ time, attempt.net.abortAt = some time → attempt.due < time)
    (before : ∀ finish ∈ arrival, attempt.due ≤ finish) :
    attempt.watch true (Timer.inOrder (attempt.pending arrival)) =
      some (true, attempt.fire ⟨attempt.due, .deadline⟩) := by
  refine h.watch_first ⟨attempt.due, .deadline⟩ (fun _ => rfl)
    (mem_pending.mpr (Or.inr (Or.inl ⟨rfl, h.expired⟩))) ?_
  rintro ⟨other, alarm⟩ mem
  rcases mem_pending.mp mem with ⟨rfl, caller', _⟩ | ⟨heq, _⟩ | ⟨rfl, finish⟩
  · exact Or.inr (Or.inl (caller other caller'))
  · exact Or.inl heq
  · exact Or.inr (.of_le (before other finish) (by simp [Alarm.rank]))

theorem Live.watch_arrival {heedsAbort : Bool} {finish : Nat} (h : attempt.Live)
    (caller : ∀ time, attempt.net.abortAt = some time → finish < time)
    (due : finish < attempt.due) :
    attempt.watch heedsAbort (Timer.inOrder (attempt.pending (some finish))) =
      some (false, attempt.fire ⟨finish, .arrival⟩) := by
  refine h.watch_first ⟨finish, .arrival⟩ (absurd rfl)
    (mem_pending.mpr (Or.inr (Or.inr ⟨rfl, rfl⟩))) ?_
  rintro ⟨other, alarm⟩ mem
  rcases mem_pending.mp mem with ⟨rfl, caller', _⟩ | ⟨heq, _⟩ | ⟨rfl, same⟩
  · exact Or.inr (Or.inl (caller other caller'))
  · cases heq
    exact Or.inr (Or.inl due)
  · cases Option.some.inj same
    exact Or.inl rfl

/-- The deadline ends a wait that has no end of its own, unless the caller aborts before. -/
theorem Live.race_endless (h : attempt.Live) :
    attempt.Race ⊤ (attempt.watch true (Timer.inOrder (attempt.pending none))) := by
  by_cases ha : ∃ time, attempt.net.abortAt = some time ∧ time ≤ attempt.due
  · obtain ⟨time, caller, due⟩ := ha
    rw [h.watch_abort caller due (by simp)]
    exact .abort time caller due le_top
  · have caller : ∀ time, attempt.net.abortAt = some time → attempt.due < time := by
      intro time caller
      by_contra hle
      exact ha ⟨time, caller, not_lt.mp hle⟩
    rw [h.watch_deadline caller (by simp)]
    exact .deadline caller le_top

theorem Live.race_lasting (h : attempt.Live) (finish : Nat) :
    attempt.Race finish (attempt.watch true (Timer.inOrder (attempt.pending (some finish)))) := by
  by_cases ha : ∃ time, attempt.net.abortAt = some time ∧ time ≤ attempt.due ∧ time ≤ finish
  · obtain ⟨time, caller, due, before⟩ := ha
    rw [h.watch_abort caller due (by simpa using before)]
    exact .abort time caller due (by exact_mod_cast before)
  have later : ∀ time, attempt.net.abortAt = some time →
      attempt.due < time ∨ finish < time := by
    intro time caller
    by_contra hle
    exact ha ⟨time, caller, by omega, by omega⟩
  by_cases hd : attempt.due ≤ finish
  · have caller : ∀ time, attempt.net.abortAt = some time → attempt.due < time := by
      intro time caller
      have := later time caller
      omega
    rw [h.watch_deadline caller (by simpa using hd)]
    exact .deadline caller (by exact_mod_cast hd)
  · have caller : ∀ time, attempt.net.abortAt = some time → finish < time := by
      intro time caller
      have := later time caller
      omega
    rw [h.watch_arrival caller (by omega)]
    exact .arrival finish caller (by omega) rfl

end Watch

theorem Live.wait {pause : Pause} (h : attempt.Live) (heeds : pause.heedsAbort = true) :
    attempt.Race (attempt.net.clock + pause.span.length) (attempt.wait pause) := by
  unfold Attempt.wait
  rw [h.aborted, heeds]
  cases pause.span with
  | instant =>
    exact .arrival attempt.net.clock h.caller h.early (by simp [Span.length])
  | lasting ms =>
    have race := h.race_lasting (attempt.net.clock + timerDelay ms)
    simpa [Span.length] using race
  | endless =>
    have race := h.race_endless
    simpa [Span.length] using race

/-- A wait that ends before the deadline and before the caller aborts, whether it would heed the
abort or not. -/
theorem Live.wait_early {pause : Pause} {span : ℕ} (h : attempt.Live)
    (length : pause.span.length = span)
    (caller : ∀ time, attempt.net.abortAt = some time → attempt.net.clock + span < time)
    (due : attempt.net.clock + span < attempt.due) :
    attempt.wait pause = some (false, attempt.fire ⟨attempt.net.clock + span, .arrival⟩) := by
  unfold Attempt.wait
  rw [h.aborted, Bool.and_false, if_neg Bool.false_ne_true]
  cases hs : pause.span with
  | instant =>
    rw [hs, Span.length, eq_comm, Nat.cast_eq_zero] at length
    subst length
    rfl
  | lasting ms =>
    rw [hs, Span.length, Nat.cast_inj] at length
    subst length
    exact h.watch_arrival caller due
  | endless =>
    rw [hs] at length
    exact absurd length (ENat.top_ne_natCast span)

end Attempt

end PullQuota
