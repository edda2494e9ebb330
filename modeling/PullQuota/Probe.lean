import PullQuota.Report
import PullQuota.Summary

/-!
The probe: it asks for the quota of its own host, and publishes it as outputs, log lines and
summary.
-/

namespace PullQuota

structure ProbeInputs where
  username : String
  password : String
  threshold : Rat

inductive ProbeError
  | failed (failure : Failure)
  | broken (breakdown : Breakdown)
  | summary (error : SummaryError)
  deriving DecidableEq

def ProbeError.message : ProbeError → String
  | failed failure =>
    "DockerHub status check failed: " ++ failure.message ++
      if failure.credentialsRejected then " (check username and password)" else ""
  | broken breakdown => breakdown.message
  | summary error => error.message

structure Probe where
  outcome : Except ProbeError Unit
  calls : List Call
  log : List LogLine
  files : Files
  network : Network

/-- An account without a name is none. -/
def ProbeInputs.credentials (inputs : ProbeInputs) : Credentials :=
  ⟨inputs.username != "", inputs.username, inputs.password, []⟩

def checkingLine (inputs : ProbeInputs) : LogLine :=
  .info ("Checking DockerHub pull rate limit (" ++
    (if inputs.credentials.authentication then "as " ++ inputs.username else "anonymous") ++ ")...")

def ProbeInputs.report (inputs : ProbeInputs) (quota : Quota) : Report :=
  ⟨quota, inputs.credentials.authentication,
    (quota.warnings inputs.threshold).map Warning.message⟩

/-- The lines that publish a report: outputs, warnings, and the report itself. -/
def Report.log (report : Report) : List LogLine :=
  [.output "limit" report.quota.limitText, .output "remaining" report.quota.remainingText] ++
    report.warnings.map .warning ++ [.info report.console]

/-- Publishes what an inquiry came to. The summary is written last, so that its failure finds all
else published. -/
def ProbeInputs.publish (inputs : ProbeInputs) (summaryFile : Option String) (files : Files)
    (inquiry : Inquiry) : Probe :=
  let log := checkingLine inputs :: inquiry.log
  match inquiry.outcome with
  | .failed failure => ⟨.error (.failed failure), inquiry.calls, log, files, inquiry.network⟩
  | .broken breakdown => ⟨.error (.broken breakdown), inquiry.calls, log, files, inquiry.network⟩
  | .done quota =>
    let report := inputs.report quota
    let log := log ++ report.log
    match writeSummary files summaryFile report.markdown with
    | .error error => ⟨.error (.summary error), inquiry.calls, log, files, inquiry.network⟩
    | .ok files => ⟨.ok (), inquiry.calls, log, files, inquiry.network⟩

def probe (inputs : ProbeInputs) (summaryFile : Option String) (files : Files) (net : Network) :
    Option Probe :=
  (fetchQuota {} inputs.credentials net).map (inputs.publish summaryFile files)

end PullQuota
