import PullQuota.Proofs.Fields
import PullQuota.Proofs.Publication

/-!
The parts of a workflow step agree: what the registry answers is what the outputs, the warnings, the
console and the summary tell.
-/

namespace PullQuota

theorem carries_of_readQuota {headers : Headers} {quota : Quota}
    (h : readQuota headers = .ok quota) :
    ∃ limit remaining : Nat, headers.Carries limitField limit ∧
      headers.Carries remainingField remaining ∧ quota = ⟨limit, remaining⟩ := by
  unfold readQuota at h
  split at h
  next => cases h
  next limit hl =>
    split at h
    next => cases h
    next remaining hr =>
      cases h
      exact ⟨limit, remaining, readCount_ok_iff.mp hl, readCount_ok_iff.mp hr, rfl⟩

theorem Headers.Carries.text {headers : Headers} {name : FieldName} {n : Nat}
    (h : headers.Carries name n) : (Number.finite n).text = toString n :=
  Number.text_natCast h.2

namespace Quota

variable {limit remaining n : Nat}

/-- The warning on a quota that is used up or low. -/
def lowWarning (limit remaining : Nat) : Warning :=
  if remaining = 0 then .exhausted else .low ⟨limit, remaining⟩

/-- Of counts a used up one is a low one, whatever the threshold. -/
theorem warnings_natCast : (⟨limit, remaining⟩ : Quota).warnings n =
    (if remaining ≤ n then [lowWarning limit remaining] else []) ++
      if limit < remaining then [.overLimit ⟨limit, remaining⟩] else [] := by
  have low : (remaining : Rat) ≤ n ↔ remaining ≤ n := Nat.cast_le
  have above : (limit : Rat) < remaining ↔ limit < remaining := Nat.cast_lt
  have zero : (remaining : Rat) = 0 ↔ remaining = 0 := Nat.cast_eq_zero
  simp only [warnings, low, above, zero, lowWarning]
  rcases Nat.eq_zero_or_pos remaining with rfl | pos
  · simp
  · simp [pos.ne']

end Quota

namespace Report

theorem lines_cons_cons (first second : String) (rest : List String) :
    lines (first :: second :: rest) = first ++ "\n" ++ lines (second :: rest) :=
  String.intercalate_cons_cons

theorem markdown_access (report : Report) : ∃ rest, report.markdown =
    "## DockerHub Pull Rate Limit\n\n**Access:** " ++ accessName report.authenticated ++ "\n" ++
      rest := by
  unfold markdown
  simp only [List.cons_append]
  rw [lines_cons_cons, lines_cons_cons, lines_cons_cons]
  -- What stands below the line on access does not matter.
  generalize lines ("" :: _) = rest
  refine ⟨rest, ?_⟩
  simp only [← String.append_assoc]
  rfl

theorem console_getLast? (report : Report) (progress : List LogLine) :
    (progress ++ report.log).getLast? = some (.info report.console) := by
  rw [log, ← List.append_assoc]
  exact List.getLast?_concat

end Report

def Request.authorized (request : Request) : Bool :=
  request.headers.any (·.1 == "Authorization")

theorem tokenRequest_authorized (urls : RegistryUrls) (credentials : Credentials) :
    (tokenRequest urls credentials).authorized = credentials.authentication := by
  unfold Request.authorized tokenRequest
  cases credentials.authentication <;> simp

/-- A summary takes a report at its end; without a summary no file is changed. -/
structure Files.Summarized (files : Files) (file : Option String) (report : Report)
    (after : Files) : Prop where
  appended : ∀ path, file = some path → path ≠ "" →
    files.append path (Utf8.encode (report.markdown ++ "\n")) = .ok after
  unnamed : file = none ∨ file = some "" → after = files

theorem Files.summarized_of_write {files after : Files} {file : Option String} {report : Report}
    (h : writeSummary files file report.markdown = .ok after) :
    files.Summarized file report after := by
  unfold writeSummary at h
  constructor
  · rintro path rfl nonempty
    simp only [if_neg nonempty] at h
    split at h
    next ha => cases h; exact ha
    next => cases h
  · rintro (rfl | rfl) <;> exact (Except.ok.inj h).symm

namespace ActionRun

/-- The parts of a run that publishes tell of the same quota, the one of the second answer, and of
the same warnings. -/
structure Publishes (run : ActionRun) (summaryFile : Option String) (files : Files)
    (threshold : Nat) (first second : Call) (limit remaining : Nat) (report : Report) : Prop where
  exitCode : run.exitCode = 0
  errors : LogLine.errors run.log = []
  calls : run.calls = [first, second]
  answer : ∃ response, second.response? = some response ∧ response.status = 200 ∧
    response.headers.Carries limitField limit ∧ response.headers.Carries remainingField remaining
  outputs : LogLine.outputs run.log =
    [("limit", toString limit), ("remaining", toString remaining)]
  quota : report.quota = ⟨limit, remaining⟩
  warnings : LogLine.warnings run.log = report.warnings
  warned : report.warnings =
    ((if remaining ≤ threshold then [Quota.lowWarning limit remaining] else []) ++
      if limit < remaining then [Warning.overLimit ⟨limit, remaining⟩] else []).map
      Warning.message
  console : run.log.getLast? = some (.info report.console)
  summary : files.Summarized summaryFile report run.files
  access : ∃ rest, report.markdown =
    "## DockerHub Pull Rate Limit\n\n**Access:** " ++ accessName first.request.authorized ++ "\n" ++
      rest

/-- Only a run with valid inputs asks the registry, only one that reads a quota publishes, and all
its parts agree. -/
structure Accounted (run : ActionRun) (inputs : ActionInputs) (summaryFile : Option String)
    (files : Files) (net : Network) : Prop where
  unasked : inputs.Invalid → run.calls = []
  failed : (inputs.Invalid ∨ ¬ ∃ quota, inputs.Reads net quota) →
    run.exitCode = 1 ∧ (∃ message, LogLine.errors run.log = [message]) ∧
      LogLine.outputs run.log = [] ∧ run.files = files
  published : ¬ inputs.Invalid → (∃ quota, inputs.Reads net quota) →
    ∃ threshold first second limit remaining report, inputs.HasThreshold threshold ∧
      run.Publishes summaryFile files threshold first second limit remaining report

section Accounted

variable {inputs : ActionInputs} {summaryFile : Option String} {files : Files} {net : Network}

theorem publishes_of_done {n : Nat} {inquiry : Inquiry} {quota : Quota} {after : Files}
    (asked : fetchQuota {} inputs.credentials net = some inquiry)
    (done : inquiry.outcome = .done quota)
    (written : writeSummary files summaryFile ((inputs.probe n).report quota).markdown =
      .ok after) :
    ∃ first second limit remaining, Publishes ⟨0, inquiry.calls,
      inputs.progress n inquiry ++ ((inputs.probe n).report quota).log, after, inquiry.network⟩
      summaryFile files n first second limit remaining ((inputs.probe n).report quota) := by
  obtain ⟨first, second, response, calls, request, answered, status, read⟩ :=
    fetchQuota_done asked done
  obtain ⟨limit, remaining, hl, hr, rfl⟩ := carries_of_readQuota read
  have silent := inputs.silent_progress (n := n) asked
  have authenticated : first.request.authorized = inputs.credentials.authentication := by
    rw [request]
    exact tokenRequest_authorized _ _
  exact ⟨first, second, limit, remaining,
    { exitCode := rfl
      errors := by rw [LogLine.errors_append, silent.errors, Report.errors_log]; rfl
      calls
      answer := ⟨response, answered, status, hl, hr⟩
      outputs := by
        rw [LogLine.outputs_append, silent.outputs, Report.outputs_log]
        exact congrArg₂ (fun l r => [("limit", l), ("remaining", r)]) hl.text hr.text
      quota := rfl
      warnings := by rw [LogLine.warnings_append, silent.warnings, Report.warnings_log]; rfl
      warned := congrArg (List.map Warning.message) Quota.warnings_natCast
      console := Report.console_getLast? _ _
      summary := Files.summarized_of_write written
      access := by rw [authenticated]; exact Report.markdown_access _ }⟩

end Accounted

end ActionRun

/-- A step accounts for what the registry answered, whatever its inputs are, as long as its summary
can be appended to. -/
theorem runAction_accounted {env : Variables} {summaryFile : Option String} {files : Files}
    {net : Network} {run : ActionRun} (take : files.TakeSummary summaryFile)
    (h : runAction (.ofVariables env) summaryFile files net = some run) :
    run.Accounted (.ofVariables env) summaryFile files net := by
  generalize ActionInputs.ofVariables env = inputs at h ⊢
  cases runAction_ends h with
  | rejected error invalid =>
    have silent := inputs.silent_masking
    have errors := silent.errors_error error.message
    have outputs := silent.outputs_error error.message
    exact ⟨fun _ => rfl, fun _ => ⟨rfl, ⟨_, errors⟩, outputs, rfl⟩,
      fun valid => absurd invalid valid⟩
  | failed n inquiry error valid asked unread =>
    have silent := inputs.silent_progress (n := n) asked
    have errors := silent.errors_error error.message
    have outputs := silent.outputs_error error.message
    exact ⟨fun invalid => absurd invalid valid.not_invalid,
      fun _ => ⟨rfl, ⟨_, errors⟩, outputs, rfl⟩,
      fun _ reads => absurd reads (ActionInputs.not_reads asked unread)⟩
  | unsummarized n inquiry quota error valid asked done refused =>
    obtain ⟨after, written⟩ := (Files.takeSummary_iff _).mp take
    cases refused.symm.trans written
  | published n inquiry quota after valid asked done written =>
    have reads : ∃ quota, inputs.Reads net quota := ⟨quota, inquiry, asked, done⟩
    obtain ⟨first, second, limit, remaining, publishes⟩ :=
      ActionRun.publishes_of_done asked done written
    exact ⟨fun invalid => absurd invalid valid.not_invalid,
      fun fails => absurd fails (by simp [valid.not_invalid, reads]),
      fun _ _ => ⟨n, first, second, limit, remaining, _, valid.threshold, publishes⟩⟩

/-- A step with an account, and with a threshold above what is left. -/
def Variables.account : Variables := fun name =>
  if name = "INPUT_USERNAME" then some " me "
  else if name = "INPUT_PASSWORD" then some "secret"
  else if name = "INPUT_WARN-THRESHOLD" then some "80"
  else none

theorem runAction_accounted_account : ∃ run,
    runAction (.ofVariables .account) (some "summary.md") {} .obliging = some run ∧
    run.Accounted (.ofVariables .account) (some "summary.md") {} .obliging ∧ run.exitCode = 0 ∧
    LogLine.warnings run.log = ["Only 76 DockerHub pull(s) left in the current window"] := by
  have ended : (runAction (.ofVariables .account) (some "summary.md") {} .obliging).map
      (fun run => (run.exitCode, LogLine.warnings run.log)) =
      some (0, ["Only 76 DockerHub pull(s) left in the current window"]) := by
    decide +kernel
  have written : (({} : Files).append "summary.md" []).isOk := by decide +kernel
  have take : Files.TakeSummary {} (some "summary.md") := by
    intro path named _
    cases named
    cases ha : ({} : Files).append "summary.md" [] with
    | error error => simp [ha, Except.isOk, Except.toBool] at written
    | ok after => exact Files.appendable_of_append ha
  obtain ⟨run, h, ended⟩ := Option.map_eq_some_iff.mp ended
  obtain ⟨exitCode, warnings⟩ := Prod.mk.inj ended
  exact ⟨run, h, runAction_accounted take h, exitCode, warnings⟩

end PullQuota
