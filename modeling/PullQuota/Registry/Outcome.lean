import PullQuota.Registry.Failure

/-!
How an inquiry ends. A failure is a report like any other; a breakdown is an error that nothing in
the service expects.
-/

namespace PullQuota

/-- An error that is not reported as a failure: a fault that no text can be told of, or a store that
broke down. -/
inductive Breakdown
  | untold
  | store (message : String)
  deriving DecidableEq

def Breakdown.message : Breakdown → String
  | untold => "Cannot convert object to primitive value"
  | store message => message

/-- How an inquiry ends, or a part of it. -/
inductive Outcome (α : Type)
  | done (value : α)
  | failed (failure : Failure)
  | broken (breakdown : Breakdown)
  deriving DecidableEq

namespace Outcome

/-- The end in trouble. What tells of no trouble breaks the inquiry down. -/
def ofTrouble {α : Type} (failure : Trouble → Failure) : Option Trouble → Outcome α
  | some trouble => failed (failure trouble)
  | none => broken .untold

theorem ofTrouble_eq_broken_iff {α : Type} {failure : Trouble → Failure} {trouble : Option Trouble}
    {breakdown : Breakdown} :
    (ofTrouble failure trouble : Outcome α) = broken breakdown ↔
      trouble = none ∧ breakdown = .untold := by
  cases trouble <;> simp [ofTrouble, eq_comm]

theorem ofTrouble_eq_failed {α : Type} {failure : Trouble → Failure} {trouble : Option Trouble}
    {reported : Failure} (h : (ofTrouble failure trouble : Outcome α) = failed reported) :
    ∃ trouble, reported = failure trouble := by
  cases trouble with
  | none => cases h
  | some trouble => cases h; exact ⟨trouble, rfl⟩

def ofExcept {α : Type} : Except Failure α → Outcome α
  | .ok value => done value
  | .error failure => failed failure

end Outcome

end PullQuota
