import PullQuota.Probe
import PullQuota.Settings

/-!
The workflow step: its inputs are checked, the password is masked, and the probe is run.
-/

namespace PullQuota

inductive InputError
  | passwordMissing
  | badThreshold (text : String)

def InputError.message : InputError → String
  | passwordMissing => "A password is required when username is set."
  | badThreshold text =>
    "Invalid warn-threshold: " ++ text ++ ". Must be a non-negative integer."

/-- The threshold of low quotas that holds when none is given. -/
def standardThreshold : Nat := 10

structure ActionInputs where
  username : String
  password : String
  threshold : String

namespace ActionInputs

/-- An input is a variable named for it in capitals; blanks at its ends do not count. -/
def variableName (name : String) : String :=
  String.ofList ("INPUT_".toList ++ name.toList.map fun c => if c = ' ' then '_' else c.toUpper)

def ofVariables (env : Variables) : ActionInputs :=
  let input (name : String) : String := trim ((env (variableName name)).getD "")
  ⟨input "username", input "password", input "warn-threshold"⟩

/-- A password is masked in the log before anything else is done with it. -/
def masking (inputs : ActionInputs) : List LogLine :=
  if inputs.password = "" then [] else [.mask inputs.password]

def threshold? (inputs : ActionInputs) : Option Nat :=
  if inputs.threshold = "" then some standardThreshold else parseCount inputs.threshold

end ActionInputs

structure ActionRun where
  exitCode : Nat
  calls : List Call
  log : List LogLine
  files : Files
  network : Network

def ActionInputs.finish (inputs : ActionInputs) (run : Probe) : ActionRun :=
  match run.outcome with
  | .ok () => ⟨0, run.calls, inputs.masking ++ run.log, run.files, run.network⟩
  | .error error =>
    ⟨1, run.calls, inputs.masking ++ run.log ++ [.error error.message], run.files, run.network⟩

/-- Runs the workflow step. A failure is logged as an error and makes the exit code 1. -/
def runAction (inputs : ActionInputs) (summaryFile : Option String) (files : Files)
    (net : Network) : Option ActionRun :=
  if inputs.username ≠ "" ∧ inputs.password = "" then
    some ⟨1, [], [.error InputError.passwordMissing.message], files, net⟩
  else
    match inputs.threshold? with
    | none =>
      some ⟨1, [], inputs.masking ++ [.error (InputError.badThreshold inputs.threshold).message],
        files, net⟩
    | some threshold =>
      (probe ⟨inputs.username, inputs.password, threshold⟩ summaryFile files net).map inputs.finish

end PullQuota
