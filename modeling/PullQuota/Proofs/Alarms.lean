import PullQuota.Network.Clock
import Mathlib.Tactic.Linarith

/-!
The order in which timers go off, and what an attempt is like when a wait has run its course.
-/

namespace PullQuota

/-- The place of an alarm among those that are set for one wait. -/
def Alarm.rank : Alarm → Nat
  | abort => 0
  | deadline => 1
  | arrival => 2

namespace Timer

/-- One timer goes off before another: it is due earlier, or at the same time and was set earlier.
-/
def Before (timer other : Timer) : Prop :=
  timer.due < other.due ∨ timer.due = other.due ∧ timer.alarm.rank < other.alarm.rank

theorem Before.of_le {timer other : Timer} (due : timer.due ≤ other.due)
    (older : timer.alarm.rank < other.alarm.rank) : timer.Before other := by
  unfold Before
  omega

theorem Before.not_symm {timer other : Timer} (h : timer.Before other) : ¬ other.Before timer := by
  unfold Before at *
  omega

theorem Before.trans {first second third : Timer} (h : first.Before second)
    (h' : second.Before third) : first.Before third := by
  unfold Before at *
  omega

theorem Before.due_le {timer other : Timer} (h : timer.Before other) : timer.due ≤ other.due := by
  unfold Before at h
  omega

theorem insert_perm (timer : Timer) (timers : List Timer) :
    (timer.insert timers).Perm (timer :: timers) := by
  induction timers with
  | nil => exact .refl _
  | cons next rest ih =>
    unfold insert
    split
    next => exact .refl _
    next => exact (ih.cons next).trans (.swap timer next rest)

theorem inOrder_perm (timers : List Timer) : (inOrder timers).Perm timers := by
  induction timers with
  | nil => exact .refl _
  | cons timer rest ih => exact (insert_perm timer (inOrder rest)).trans (ih.cons timer)

theorem mem_inOrder {timer : Timer} {timers : List Timer} :
    timer ∈ inOrder timers ↔ timer ∈ timers :=
  (inOrder_perm timers).mem_iff

/-- A timer that was set before all others stays in front of those that are due with it. -/
theorem insert_pairwise {timer : Timer} {timers : List Timer} (sorted : timers.Pairwise Before)
    (older : ∀ other ∈ timers, timer.alarm.rank < other.alarm.rank) :
    (timer.insert timers).Pairwise Before := by
  induction timers with
  | nil => exact List.pairwise_singleton _ _
  | cons next rest ih =>
    obtain ⟨first, sortedRest⟩ := List.pairwise_cons.mp sorted
    unfold insert
    split
    next hle =>
      have hnext : timer.Before next := .of_le hle (older next (by simp))
      apply List.pairwise_cons.mpr
      refine ⟨?_, sorted⟩
      intro other hother
      rcases List.mem_cons.mp hother with rfl | hother
      · exact hnext
      · exact hnext.trans (first other hother)
    next hlt =>
      apply List.pairwise_cons.mpr
      refine ⟨?_, ih sortedRest fun other hother => older other (by simp [hother])⟩
      intro other hother
      rcases List.mem_cons.mp ((insert_perm timer rest).mem_iff.mp hother) with rfl | hother
      · exact Or.inl (not_le.mp hlt)
      · exact first other hother

theorem inOrder_pairwise {timers : List Timer}
    (h : timers.Pairwise fun timer other => timer.alarm.rank < other.alarm.rank) :
    (inOrder timers).Pairwise Before := by
  induction timers with
  | nil => exact .nil
  | cons timer rest ih =>
    obtain ⟨older, hrest⟩ := List.pairwise_cons.mp h
    exact insert_pairwise (ih hrest) fun other hother => older other (mem_inOrder.mp hother)

/-- The timer that comes before all others goes off first. -/
theorem inOrder_eq_cons {timer : Timer} {timers : List Timer}
    (h : timers.Pairwise fun timer other => timer.alarm.rank < other.alarm.rank)
    (mem : timer ∈ timers) (first : ∀ other ∈ timers, other = timer ∨ timer.Before other) :
    ∃ rest, inOrder timers = timer :: rest := by
  have sorted := inOrder_pairwise h
  cases hs : inOrder timers with
  | nil => simp [← mem_inOrder, hs] at mem
  | cons head rest =>
    rw [hs] at sorted
    have headMem : head ∈ timers := mem_inOrder.mp (by simp [hs])
    -- The list is sorted, so nothing in it goes off before its head.
    rcases first head headMem with rfl | before
    · exact ⟨rest, rfl⟩
    · have hrest : timer ∈ head :: rest := hs ▸ mem_inOrder.mpr mem
      rcases List.mem_cons.mp hrest with rfl | later
      · exact ⟨rest, rfl⟩
      · exact absurd ((List.pairwise_cons.mp sorted).1 timer later) before.not_symm

end Timer

namespace Attempt

theorem mem_pending {attempt : Attempt} {arrival : Option Nat} {timer : Timer} :
    timer ∈ attempt.pending arrival ↔
      (timer.alarm = .abort ∧ attempt.net.abortAt = some timer.due ∧
        attempt.net.clock < timer.due) ∨
      (timer = ⟨attempt.due, .deadline⟩ ∧ attempt.expired = false) ∨
      (timer.alarm = .arrival ∧ arrival = some timer.due) := by
  obtain ⟨due, alarm⟩ := timer
  cases alarm <;> cases h : attempt.expired <;>
    simp [pending, h, Option.filter_eq_some_iff]

theorem pending_pairwise (attempt : Attempt) (arrival : Option Nat) :
    (attempt.pending arrival).Pairwise fun timer other => timer.alarm.rank < other.alarm.rank := by
  unfold pending
  cases attempt.net.abortAt.filter (attempt.net.clock < ·) <;> cases attempt.expired <;>
    cases arrival <;> simp [Alarm.rank]

/-- The deadline has passed when its time has come, and not before. An abort of the caller at the
very time of the deadline is the one moment when this does not hold. -/
def Punctual (attempt : Attempt) : Prop :=
  attempt.expired = true ↔ attempt.due ≤ attempt.net.clock

/-- An attempt and the timers that are still to go off, in their order. -/
structure Awaits (attempt : Attempt) (timers : List Timer) : Prop where
  sorted : timers.Pairwise Timer.Before
  ahead : ∀ timer ∈ timers, attempt.net.clock ≤ timer.due
  armed : attempt.expired = false → ⟨attempt.due, .deadline⟩ ∈ timers
  own : ∀ timer ∈ timers, timer.alarm = .deadline → timer.due = attempt.due
  past : attempt.expired = true → attempt.due ≤ attempt.net.clock

theorem Punctual.awaits {attempt : Attempt} {arrival : Option Nat} (h : attempt.Punctual)
    (later : ∀ finish ∈ arrival, attempt.net.clock ≤ finish) :
    attempt.Awaits (Timer.inOrder (attempt.pending arrival)) where
  sorted := Timer.inOrder_pairwise (attempt.pending_pairwise arrival)
  ahead timer mem := by
    rcases mem_pending.mp (Timer.mem_inOrder.mp mem) with ⟨_, _, hlt⟩ | ⟨rfl, he⟩ | ⟨_, ha⟩
    · exact hlt.le
    · by_contra hlt
      have := h.mpr (not_le.mp hlt).le
      simp [he] at this
    · exact later _ ha
  armed he := Timer.mem_inOrder.mpr (mem_pending.mpr (Or.inr (Or.inl ⟨rfl, he⟩)))
  own timer mem ha := by
    rcases mem_pending.mp (Timer.mem_inOrder.mp mem) with ⟨hb, _⟩ | ⟨rfl, _⟩ | ⟨hb, _⟩
    · simp [ha] at hb
    · rfl
    · simp [ha] at hb
  past := h.mp

theorem Awaits.fire {attempt : Attempt} {timer : Timer} {rest : List Timer}
    (h : attempt.Awaits (timer :: rest)) : (attempt.fire timer).Awaits rest where
  sorted := (List.pairwise_cons.mp h.sorted).2
  ahead other mem := by
    rw [fire_clock]
    exact ((List.pairwise_cons.mp h.sorted).1 other mem).due_le
  armed he := by
    rw [fire_expired, Bool.or_eq_false_iff] at he
    rw [fire_due]
    rcases List.mem_cons.mp (h.armed he.1) with rfl | mem
    · simp at he
    · exact mem
  own other mem ha := by
    rw [fire_due]
    exact h.own other (by simp [mem]) ha
  past he := by
    rw [fire_expired, Bool.or_eq_true_iff, decide_eq_true_eq] at he
    rw [fire_due, fire_clock]
    rcases he with he | ha
    · exact (h.past he).trans (h.ahead timer (by simp))
    · exact (h.own timer (by simp) ha).ge

/-- At an arrival all deadlines of its time have passed: they were set before. -/
theorem Awaits.punctual_of_arrival {attempt : Attempt} {timer : Timer} {rest : List Timer}
    (h : attempt.Awaits (timer :: rest)) (arrives : timer.alarm = .arrival) :
    (attempt.fire timer).Punctual := by
  have past := h.fire.past
  refine ⟨past, fun hle => ?_⟩
  by_contra he
  have he := Bool.eq_false_iff.mpr he
  -- A deadline that is still set would go off after the arrival, and so be due later.
  have later := (List.pairwise_cons.mp h.sorted).1 _ (h.fire.armed he)
  simp only [Timer.Before, arrives, Alarm.rank, fire_due, fire_clock] at later hle
  omega

theorem Awaits.watch {heedsAbort : Bool} {timers : List Timer} {attempt after : Attempt}
    (h : attempt.Awaits timers) (hw : attempt.watch heedsAbort timers = some (false, after)) :
    after.Punctual ∧ after.due = attempt.due := by
  induction timers generalizing attempt with
  | nil => simp [Attempt.watch] at hw
  | cons timer rest ih =>
    simp only [Attempt.watch] at hw
    split at hw
    next arrives =>
      cases Option.some.inj hw
      exact ⟨h.punctual_of_arrival arrives, fire_due _ _⟩
    next =>
      split at hw
      next => simp at hw
      next => simpa using ih h.fire hw

/-- After a wait that was not cut short, too, the deadline has passed when its time has come. -/
theorem Punctual.wait {attempt after : Attempt} {pause : Pause} (h : attempt.Punctual)
    (hw : attempt.wait pause = some (false, after)) :
    after.Punctual ∧ after.due = attempt.due := by
  unfold Attempt.wait at hw
  split at hw
  next => simp at hw
  next =>
    split at hw
    next =>
      cases Option.some.inj hw
      exact ⟨h, rfl⟩
    next => exact (h.awaits (by simp)).watch hw
    next => exact (h.awaits (by simp)).watch hw

end Attempt

end PullQuota
