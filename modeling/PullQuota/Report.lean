import PullQuota.Registry.Inquiry

/-!
Reports on a quota: a table with headings, and a line for the console.
-/

namespace PullQuota

structure Report where
  quota : Quota
  authenticated : Bool
  warnings : List String

namespace Report

def lines (texts : List String) : String :=
  "\n".intercalate texts

/-- The report as a table with its headings. -/
def markdown (report : Report) : String :=
  let quota := report.quota
  lines ([
    "## DockerHub Pull Rate Limit",
    "",
    "**Access:** " ++ accessName report.authenticated,
    "",
    "| Limit | Remaining | Used |",
    "|------:|----------:|-----:|",
    "| " ++ quota.limitText ++ " | " ++ quota.remainingText ++ " | " ++ quota.used.text ++ " |",
    "",
    "*" ++ quota.percentText ++ " of the current window used.*",
    ""] ++
    if report.warnings = [] then []
    else ["### Warnings", ""] ++ report.warnings.map ("- " ++ ·) ++ [""])

/-- The report in a line or two. -/
def console (report : Report) : String :=
  let quota := report.quota
  lines (("DockerHub pulls: " ++ quota.remainingText ++ "/" ++ quota.limitText ++ " remaining (" ++
      quota.percentText ++ " used)") ::
    if report.warnings = [] then [] else ["Warnings: " ++ toString report.warnings.length])

end Report

end PullQuota
