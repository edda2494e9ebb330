import PullQuota.Action
import PullQuota.Proofs.Appending
import PullQuota.Proofs.Counting
import PullQuota.Proofs.Inquiries

/-!
What a workflow step comes to, and what it has published by then.
-/

namespace PullQuota

namespace LogLine

def output? : LogLine → Option (String × String)
  | output name value => some (name, value)
  | _ => none

def warning? : LogLine → Option String
  | warning message => some message
  | _ => none

def error? : LogLine → Option String
  | error message => some message
  | _ => none

def outputs (log : List LogLine) : List (String × String) :=
  log.filterMap output?

def warnings (log : List LogLine) : List String :=
  log.filterMap warning?

def errors (log : List LogLine) : List String :=
  log.filterMap error?

section Append

variable (log later : List LogLine)

@[simp] theorem outputs_append : outputs (log ++ later) = outputs log ++ outputs later :=
  List.filterMap_append

@[simp] theorem warnings_append : warnings (log ++ later) = warnings log ++ warnings later :=
  List.filterMap_append

@[simp] theorem errors_append : errors (log ++ later) = errors log ++ errors later :=
  List.filterMap_append

end Append

section Warnings

variable (messages : List String)

theorem outputs_map_warning : outputs (messages.map warning) = [] := by
  simp [outputs, output?]

theorem warnings_map_warning : warnings (messages.map warning) = messages := by
  rw [warnings, List.filterMap_map]
  exact List.filterMap_some

theorem errors_map_warning : errors (messages.map warning) = [] := by
  simp [errors, error?]

end Warnings

/-- Lines that neither publish nor complain. -/
structure Silent (log : List LogLine) : Prop where
  outputs : outputs log = []
  warnings : warnings log = []
  errors : errors log = []

theorem silent_of_debug {log : List LogLine} (h : ∀ line ∈ log, ∃ message, line = debug message) :
    Silent log := by
  constructor <;>
  · refine List.filterMap_eq_nil_iff.mpr fun line mem => ?_
    obtain ⟨message, rfl⟩ := h line mem
    rfl

theorem Silent.append {log later : List LogLine} (h : Silent log) (h' : Silent later) :
    Silent (log ++ later) :=
  ⟨by simp [h.outputs, h'.outputs], by simp [h.warnings, h'.warnings],
    by simp [h.errors, h'.errors]⟩

theorem Silent.outputs_error {log : List LogLine} (h : Silent log) (message : String) :
    LogLine.outputs (log ++ [error message]) = [] := by
  rw [outputs_append, h.outputs]
  rfl

theorem Silent.errors_error {log : List LogLine} (h : Silent log) (message : String) :
    LogLine.errors (log ++ [error message]) = [message] := by
  rw [errors_append, h.errors]
  rfl

end LogLine

namespace ActionInputs

variable {inputs : ActionInputs}

/-- The threshold that a step runs with: a count, and ten if none is given. -/
def HasThreshold (inputs : ActionInputs) (n : Nat) : Prop :=
  if inputs.threshold = "" then n = 10
  else Writes inputs.threshold n ∧ n ≤ Number.maxCount

theorem threshold?_eq_some_iff {n : Nat} : inputs.threshold? = some n ↔ inputs.HasThreshold n := by
  unfold threshold? HasThreshold
  split
  next => simp [standardThreshold, eq_comm]
  next => exact parseCount_eq_some_iff

/-- A name without a password, or a threshold that is no count. -/
def Invalid (inputs : ActionInputs) : Prop :=
  (inputs.username ≠ "" ∧ inputs.password = "") ∨ ∀ n, ¬ inputs.HasThreshold n

structure Valid (inputs : ActionInputs) (n : Nat) : Prop where
  password : inputs.username ≠ "" → inputs.password ≠ ""
  threshold : inputs.HasThreshold n

theorem Valid.not_invalid {n : Nat} (h : inputs.Valid n) : ¬ inputs.Invalid := by
  rintro (⟨named, unlocked⟩ | none)
  · exact h.password named unlocked
  · exact none n h.threshold

def probe (inputs : ActionInputs) (n : Nat) : ProbeInputs :=
  ⟨inputs.username, inputs.password, n⟩

def credentials (inputs : ActionInputs) : Credentials :=
  ⟨inputs.username != "", inputs.username, inputs.password, []⟩

def progress (inputs : ActionInputs) (n : Nat) (inquiry : Inquiry) : List LogLine :=
  inputs.masking ++ checkingLine (inputs.probe n) :: inquiry.log

theorem silent_masking (inputs : ActionInputs) : LogLine.Silent inputs.masking := by
  unfold masking
  split <;> exact ⟨rfl, rfl, rfl⟩

theorem silent_progress {n : Nat} {inquiry : Inquiry} {access : Access} {credentials : Credentials}
    {net : Network} (asked : fetchQuota access credentials net = some inquiry) :
    LogLine.Silent (inputs.progress n inquiry) := by
  have checking : LogLine.Silent [checkingLine (inputs.probe n)] := ⟨rfl, rfl, rfl⟩
  have told := LogLine.silent_of_debug (fetchQuota_log_debug asked)
  exact inputs.silent_masking.append (checking.append told)

end ActionInputs

namespace Report

variable (report : Report)

theorem outputs_log : LogLine.outputs report.log =
    [("limit", report.quota.limitText), ("remaining", report.quota.remainingText)] := by
  rw [log, LogLine.outputs_append, LogLine.outputs_append, LogLine.outputs_map_warning]
  rfl

theorem warnings_log : LogLine.warnings report.log = report.warnings := by
  rw [log, LogLine.warnings_append, LogLine.warnings_append, LogLine.warnings_map_warning]
  exact List.append_nil _

theorem errors_log : LogLine.errors report.log = [] := by
  rw [log, LogLine.errors_append, LogLine.errors_append, LogLine.errors_map_warning]
  rfl

end Report

/-- How a workflow step ends: with its inputs rejected, with no quota read, with a summary that could
not be written, or with all published. -/
inductive ActionRun.Ends (inputs : ActionInputs) (summaryFile : Option String) (files : Files)
    (net : Network) : ActionRun → Prop
  | rejected (error : InputError) (invalid : inputs.Invalid) :
      Ends inputs summaryFile files net
        ⟨1, [], inputs.masking ++ [.error error.message], files, net⟩
  | failed (n : Nat) (inquiry : Inquiry) (error : ProbeError) (valid : inputs.Valid n)
      (asked : fetchQuota {} inputs.credentials net = some inquiry)
      (unread : ∀ quota, inquiry.outcome ≠ .done quota) :
      Ends inputs summaryFile files net
        ⟨1, inquiry.calls, inputs.progress n inquiry ++ [.error error.message], files,
          inquiry.network⟩
  | unsummarized (n : Nat) (inquiry : Inquiry) (quota : Quota) (error : SummaryError)
      (valid : inputs.Valid n) (asked : fetchQuota {} inputs.credentials net = some inquiry)
      (done : inquiry.outcome = .done quota)
      (refused : writeSummary files summaryFile ((inputs.probe n).report quota).markdown =
        .error error) :
      Ends inputs summaryFile files net
        ⟨1, inquiry.calls, inputs.progress n inquiry ++ ((inputs.probe n).report quota).log ++
          [.error error.message], files, inquiry.network⟩
  | published (n : Nat) (inquiry : Inquiry) (quota : Quota) (after : Files)
      (valid : inputs.Valid n) (asked : fetchQuota {} inputs.credentials net = some inquiry)
      (done : inquiry.outcome = .done quota)
      (written : writeSummary files summaryFile ((inputs.probe n).report quota).markdown =
        .ok after) :
      Ends inputs summaryFile files net
        ⟨0, inquiry.calls, inputs.progress n inquiry ++ ((inputs.probe n).report quota).log, after,
          inquiry.network⟩

section Ends

variable {inputs : ActionInputs} {summaryFile : Option String} {files : Files} {net : Network}
  {run : ActionRun}

theorem ActionRun.ends_of_publish {n : Nat} {inquiry : Inquiry} (valid : inputs.Valid n)
    (asked : fetchQuota {} inputs.credentials net = some inquiry) :
    Ends inputs summaryFile files net
      (inputs.finish ((inputs.probe n).publish summaryFile files inquiry)) := by
  unfold ProbeInputs.publish
  cases ho : inquiry.outcome with
  | failed failure => exact .failed n inquiry (.failed failure) valid asked (by simp [ho])
  | broken breakdown => exact .failed n inquiry (.broken breakdown) valid asked (by simp [ho])
  | done quota =>
    cases hw : writeSummary files summaryFile ((inputs.probe n).report quota).markdown with
    | error error =>
      simp only [hw, ActionInputs.finish, ← List.append_assoc]
      exact .unsummarized n inquiry quota error valid asked ho hw
    | ok after =>
      simp only [hw, ActionInputs.finish, ← List.append_assoc]
      exact .published n inquiry quota after valid asked ho hw

theorem runAction_ends (h : runAction inputs summaryFile files net = some run) :
    run.Ends inputs summaryFile files net := by
  unfold runAction at h
  split at h
  next missing =>
    cases Option.some.inj h
    have unmasked : inputs.masking = [] := by simp [ActionInputs.masking, missing.2]
    have ended : ActionRun.Ends inputs summaryFile files net _ :=
      .rejected .passwordMissing (Or.inl missing)
    rwa [unmasked] at ended
  next given =>
    split at h
    next none =>
      cases Option.some.inj h
      refine .rejected (.badThreshold inputs.threshold) (Or.inr fun n has => ?_)
      simp [ActionInputs.threshold?_eq_some_iff.mpr has] at none
    next n some =>
      obtain ⟨probed, hp, rfl⟩ := Option.map_eq_some_iff.mp h
      obtain ⟨inquiry, asked, rfl⟩ := Option.map_eq_some_iff.mp hp
      have valid : inputs.Valid n :=
        ⟨fun named unlocked => given ⟨named, unlocked⟩, ActionInputs.threshold?_eq_some_iff.mp some⟩
      exact ActionRun.ends_of_publish valid asked

def ActionInputs.Reads (inputs : ActionInputs) (net : Network) (quota : Quota) : Prop :=
  ∃ inquiry, fetchQuota {} inputs.credentials net = some inquiry ∧ inquiry.outcome = .done quota

theorem ActionInputs.not_reads {inquiry : Inquiry}
    (asked : fetchQuota {} inputs.credentials net = some inquiry)
    (unread : ∀ quota, inquiry.outcome ≠ .done quota) : ¬ ∃ quota, inputs.Reads net quota := by
  rintro ⟨quota, other, asked', done⟩
  cases Option.some.inj (asked.symm.trans asked')
  exact unread quota done

/-- A step that fails changes no file. It has published outputs just if it read a quota and then could
not write the summary. -/
theorem failed_step_publishes_iff (h : runAction inputs summaryFile files net = some run)
    (failed : run.exitCode = 1) :
    run.files = files ∧
    (LogLine.outputs run.log ≠ [] ↔
      ¬ inputs.Invalid ∧ (∃ quota, inputs.Reads net quota) ∧ ¬ files.TakeSummary summaryFile) := by
  cases runAction_ends h with
  | rejected error invalid =>
    have none := inputs.silent_masking.outputs_error error.message
    exact ⟨rfl, by simp [none, invalid]⟩
  | failed n inquiry error valid asked unread =>
    have silent := inputs.silent_progress (n := n) asked
    have none := silent.outputs_error error.message
    exact ⟨rfl, by simp [none, ActionInputs.not_reads asked unread]⟩
  | unsummarized n inquiry quota error valid asked done refused =>
    have reads : ∃ quota, inputs.Reads net quota := ⟨quota, inquiry, asked, done⟩
    have untaken : ¬ files.TakeSummary summaryFile := by
      intro take
      obtain ⟨after, written⟩ := (Files.takeSummary_iff _).mp take
      cases refused.symm.trans written
    have some : LogLine.outputs (inputs.progress n inquiry ++
        ((inputs.probe n).report quota).log ++ [.error error.message]) ≠ [] := by
      simp [Report.outputs_log]
    exact ⟨rfl, iff_of_true some ⟨valid.not_invalid, reads, untaken⟩⟩
  | published => simp at failed

end Ends

/-- No quota is read, so that it does not matter that the summary has no directory. -/
theorem failed_step_mute : ∃ run,
    runAction ⟨"", "", ""⟩ (some "missing/summary.md") {} .mute = some run ∧ run.exitCode = 1 ∧
    run.files = {} ∧ LogLine.outputs run.log = [] := by
  have ended : (runAction ⟨"", "", ""⟩ (some "missing/summary.md") {} .mute).map (·.exitCode) =
      some 1 := by
    decide +kernel
  obtain ⟨run, h, failed⟩ := Option.map_eq_some_iff.mp ended
  obtain ⟨files, publishes⟩ := failed_step_publishes_iff h failed
  refine ⟨run, h, failed, files, ?_⟩
  by_contra published
  obtain ⟨_, ⟨quota, inquiry, asked, done⟩, _⟩ := publishes.mp published
  have broken : (fetchQuota {} .anonymous .mute).map (·.outcome) = some (.broken .untold) := by
    decide +kernel
  obtain ⟨other, asked', untold⟩ := Option.map_eq_some_iff.mp broken
  cases Option.some.inj (asked'.symm.trans asked)
  simp [untold] at done

/-- A step that cannot write its summary has published its outputs all the same. -/
theorem failed_step_publishes_outputs : ∃ run,
    runAction ⟨"", "", ""⟩ (some "missing/summary.md") {} .obliging = some run ∧
    run.exitCode = 1 ∧ LogLine.outputs run.log = [("limit", "100"), ("remaining", "76")] := by
  have ended : (runAction ⟨"", "", ""⟩ (some "missing/summary.md") {} .obliging).map
      (fun run => (run.exitCode, LogLine.outputs run.log)) =
      some (1, [("limit", "100"), ("remaining", "76")]) := by
    decide +kernel
  obtain ⟨run, h, ended⟩ := Option.map_eq_some_iff.mp ended
  obtain ⟨failed, outputs⟩ := Prod.mk.inj ended
  exact ⟨run, h, failed, outputs⟩

end PullQuota
