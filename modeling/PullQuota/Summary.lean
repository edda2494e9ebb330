import PullQuota.Session
import PullQuota.Text.Utf8

/-!
The summary of a workflow step: a file to which reports are appended.
-/

namespace PullQuota

/-- A summary that could not be appended. -/
structure SummaryError where
  path : String
  error : FileError
  deriving DecidableEq

def SummaryError.message (e : SummaryError) : String :=
  e.error.openMessage e.path

/-- Appends a report to the summary file, if one is named. -/
def writeSummary (files : Files) (file : Option String) (markdown : String) :
    Except SummaryError Files :=
  match file with
  | none => .ok files
  | some path =>
    if path = "" then .ok files
    else
      match files.append path (Utf8.encode (markdown ++ "\n")) with
      | .ok files => .ok files
      | .error error => .error ⟨path, error⟩

/-- A report to append, after the summary file was named anew, unset or left as it was. -/
structure SummaryStep where
  file : Option (Option String)
  markdown : String

/-- What became of a step: the file that is named, or the error, and the files. -/
structure SummaryResult where
  outcome : Except SummaryError (Option String)
  files : Files

def appendSummary (files : Files) (file : Option String) (step : SummaryStep) :
    SummaryResult × Files × Option String :=
  let file := step.file.getD file
  match writeSummary files file step.markdown with
  | .ok files => (⟨.ok file, files⟩, files, file)
  | .error error => (⟨.error error, files⟩, files, file)

/-- Appends reports in order; at first no summary file is named. -/
def summarySession (files : Files) (steps : List (SessionStep SummaryStep)) :
    List (Option SummaryResult) :=
  runSession (fun files file step => some (appendSummary files file step)) files none steps

end PullQuota
