import PullQuota.Proofs.Concealment
import PullQuota.Proofs.Courses
import PullQuota.Proofs.Lines

/-!
A workflow step masks its password before it does anything else, and shows nothing more of it.
-/

namespace PullQuota

/-- A request that shows a name and a password. -/
def Request.ShowsAccount (request : Request) : Prop :=
  ∃ secret, ("Authorization", "Basic " ++ secret) ∈ request.headers

theorem tokenRequest_showsAccount {urls : RegistryUrls} {credentials : Credentials}
    (shows : (tokenRequest urls credentials).ShowsAccount) : credentials.authentication = true := by
  obtain ⟨secret, mem⟩ := shows
  by_contra anonymous
  simp [tokenRequest, anonymous] at mem

theorem limitsRequest_not_showsAccount (urls : RegistryUrls) (token : String) :
    ¬ (limitsRequest urls token).ShowsAccount := by
  rintro ⟨secret, mem⟩
  obtain ⟨_, bearer⟩ := Prod.mk.inj (List.mem_singleton.mp mem)
  have second := congrArg (fun text => text.toList[1]?) bearer
  simp at second

theorem ActionInputs.masking_of_password {inputs : ActionInputs} (given : inputs.password ≠ "") :
    inputs.masking = [.mask inputs.password] :=
  if_neg given

section Masking

variable (inputs : ActionInputs) (summaryFile : Option String) (files : Files) (net : Network)

/-- How a step masks its password: it is the first thing that it does, if there is a password at
all. An account is shown in the request for a token only, and after it was masked. -/
structure ActionInputs.Masks : Prop where
  recorded : (inputs.course summaryFile files net).record? =
    (runAction inputs summaryFile files net).map ActionRun.record
  first : inputs.password ≠ "" → ∃ later,
    (inputs.course summaryFile files net).deeds = .wrote (.mask inputs.password) :: later
  before : ∀ earlier request later,
    (inputs.course summaryFile files net).deeds = earlier ++ .sent request :: later →
    request.ShowsAccount →
    request = tokenRequest .standard inputs.credentials ∧
      .wrote (.mask inputs.password) ∈ earlier

variable {inputs summaryFile files net}

theorem ActionInputs.course_masks_first (given : inputs.password ≠ "") : ∃ later,
    (inputs.course summaryFile files net).deeds = .wrote (.mask inputs.password) :: later := by
  rw [course, if_neg fun missing => given missing.2, masking_of_password given]
  exact ⟨_, rfl⟩

/-- The account that is shown is the one of the inputs, and it has a password. -/
theorem ActionInputs.course_shows_account : (inputs.course summaryFile files net).Sends
    fun request => request.ShowsAccount →
      request = tokenRequest .standard inputs.credentials ∧ inputs.password ≠ "" := by
  refine course_sends fun given => inquire_sends (fun shows => ⟨rfl, fun unlocked => ?_⟩)
    fun token shows => absurd shows (limitsRequest_not_showsAccount _ _)
  have named : inputs.username ≠ "" := by
    simpa [credentials] using tokenRequest_showsAccount shows
  exact given ⟨named, unlocked⟩

theorem ActionInputs.masks (inputs : ActionInputs) (summaryFile : Option String) (files : Files)
    (net : Network) : inputs.Masks summaryFile files net where
  recorded := inputs.course_record?
  first := course_masks_first
  before earlier request later deeds shows := by
    have sent : .sent request ∈ (inputs.course summaryFile files net).deeds := by simp [deeds]
    obtain ⟨token, given⟩ := course_shows_account request sent shows
    obtain ⟨rest, masked⟩ : ∃ rest, (inputs.course summaryFile files net).deeds = _ :: rest :=
      course_masks_first given
    rw [deeds] at masked
    -- The first deed is no request, so that it is among the earlier ones.
    cases earlier with
    | nil => cases masked
    | cons deed others =>
      obtain ⟨rfl, _⟩ := List.cons.inj masked
      exact ⟨token, List.mem_cons_self⟩

end Masking

structure Probe.Alike (run run' : Probe) : Prop where
  outcome : run.outcome = run'.outcome
  calls : List.Forall₂ Call.Alike run.calls run'.calls
  log : run.log = run'.log
  files : run.files = run'.files
  network : run.network.Alike run'.network

/-- The output of a step, line by line. -/
def ActionRun.lines (run : ActionRun) : List (List Char) :=
  (renderLog run.log).toList.splitOn '\n'

/-- Steps that end alike, at the same time and with the same files, and of which each writes its own
password in its first line, as one to mask, and all else alike. -/
structure ActionRun.Alike (password password' : String) (run run' : ActionRun) : Prop where
  exitCode : run.exitCode = run'.exitCode
  calls : List.Forall₂ Call.Alike run.calls run'.calls
  files : run.files = run'.files
  clock : run.network.clock = run'.network.clock
  lines : ∃ later, run.lines = ("::add-mask::" ++ LogLine.escape password).toList :: later ∧
    run'.lines = ("::add-mask::" ++ LogLine.escape password').toList :: later

theorem ActionRun.lines_of_mask {run : ActionRun} {secret : String} {later : List LogLine}
    (log : run.log = .mask secret :: later) :
    run.lines = ("::add-mask::" ++ LogLine.escape secret).toList ::
      (later.flatMap LogLine.lines ++ [[]]) := by
  have first : (LogLine.mask secret).lines = [(LogLine.commandText "add-mask" secret).toList] :=
    LogLine.lines_of_command rfl (by decide)
  rw [lines, log, splitOn_renderLog, List.flatMap_cons, first]
  rfl

theorem ActionRun.alike_of_mask {run run' : ActionRun} {password password' : String}
    {later : List LogLine} (exitCode : run.exitCode = run'.exitCode)
    (calls : List.Forall₂ Call.Alike run.calls run'.calls) (files : run.files = run'.files)
    (network : run.network.Alike run'.network) (log : run.log = .mask password :: later)
    (log' : run'.log = .mask password' :: later) : run.Alike password password' run' :=
  ⟨exitCode, calls, files, network.clock, _, lines_of_mask log, lines_of_mask log'⟩

section Alike

variable {summaryFile : Option String} {files : Files} {net net' : Network}

theorem ProbeInputs.publish_alike (inputs : ProbeInputs) (password : String)
    {inquiry inquiry' : Inquiry} (asked : inquiry.Alike inquiry') :
    (inputs.publish summaryFile files inquiry).Alike
      ({ inputs with password }.publish summaryFile files inquiry') := by
  -- Neither the line of the check nor the report depends on the password.
  have checking : checkingLine { inputs with password } = checkingLine inputs := rfl
  have reports : ({ inputs with password } : ProbeInputs).report = inputs.report := rfl
  unfold publish
  rw [← asked.outcome, ← asked.log, checking, reports]
  cases inquiry.outcome with
  | failed failure => exact ⟨rfl, asked.calls, rfl, rfl, asked.network⟩
  | broken breakdown => exact ⟨rfl, asked.calls, rfl, rfl, asked.network⟩
  | done quota =>
    dsimp only
    cases writeSummary files summaryFile (inputs.report quota).markdown with
    | error error => exact ⟨rfl, asked.calls, rfl, rfl, asked.network⟩
    | ok after => exact ⟨rfl, asked.calls, rfl, rfl, asked.network⟩

theorem ActionInputs.finish_alike {inputs : ActionInputs} {password : String} {run run' : Probe}
    (given : inputs.password ≠ "") (given' : password ≠ "") (runs : run.Alike run') :
    (inputs.finish run).Alike inputs.password password
      ({ inputs with password }.finish run') := by
  unfold finish
  rw [← runs.outcome, ← runs.log, masking_of_password given, masking_of_password given']
  cases run.outcome with
  | ok => exact ActionRun.alike_of_mask rfl runs.calls runs.files runs.network rfl rfl
  | error error => exact ActionRun.alike_of_mask rfl runs.calls runs.files runs.network rfl rfl

theorem runAction_alike {inputs : ActionInputs} {password : String}
    (given : inputs.password ≠ "") (given' : password ≠ "") (nets : net.Alike net') :
    Option.Rel (ActionRun.Alike inputs.password password) (runAction inputs summaryFile files net)
      (runAction { inputs with password } summaryFile files net') := by
  have thresholds : ({ inputs with password } : ActionInputs).threshold? = inputs.threshold? := rfl
  unfold runAction
  rw [if_neg fun missing => given missing.2, if_neg fun missing => given' missing.2, thresholds]
  cases inputs.threshold? with
  | none =>
    rw [ActionInputs.masking_of_password given, ActionInputs.masking_of_password given']
    exact .some (ActionRun.alike_of_mask rfl .nil rfl nets rfl rfl)
  | some threshold =>
    have asked : Option.Rel Inquiry.Alike (fetchQuota {} inputs.credentials net)
        (fetchQuota {} { inputs.credentials with password } net') :=
      fetchQuota_alike {} rfl nets
    refine rel_map (rel_map asked fun _ _ alike => ?_) fun _ _ =>
      ActionInputs.finish_alike given given'
    exact (inputs.probe threshold).publish_alike password alike

end Alike

/-- An environment decides the inputs; one that differs in the password alone gives another one. -/
theorem ActionInputs.ofVariables_of_password {env env' : Variables}
    (same : ∀ name, name ≠ "INPUT_PASSWORD" → env name = env' name) :
    ofVariables env' = { ofVariables env with password := (ofVariables env').password } := by
  have username : env (variableName "username") = env' (variableName "username") :=
    same _ (by decide)
  have threshold : env (variableName "warn-threshold") = env' (variableName "warn-threshold") :=
    same _ (by decide)
  simp only [ofVariables, username, threshold]

/-- Of a password a step shows the line that masks it, and what it sends. The rest is the same for
all passwords and tokens, and the line is written before anything is sent. -/
theorem runAction_conceals {env env' : Variables} {net net' : Network}
    (same : ∀ name, name ≠ "INPUT_PASSWORD" → env name = env' name)
    (given : (ActionInputs.ofVariables env).password ≠ "")
    (given' : (ActionInputs.ofVariables env').password ≠ "") (nets : net.Alike net')
    (summaryFile : Option String) (files : Files) :
    Option.Rel (ActionRun.Alike (ActionInputs.ofVariables env).password
        (ActionInputs.ofVariables env').password)
      (runAction (.ofVariables env) summaryFile files net)
      (runAction (.ofVariables env') summaryFile files net') ∧
    ∀ (inputs : ActionInputs) (net : Network), inputs.Masks summaryFile files net := by
  refine ⟨?_, fun inputs net => inputs.masks summaryFile files net⟩
  rw [ActionInputs.ofVariables_of_password same]
  exact runAction_alike given given' nets

/-- The environment of a step that is given an account. -/
def Variables.ofAccount (username password : String) : Variables := fun name =>
  if name = "INPUT_USERNAME" then some username
  else if name = "INPUT_PASSWORD" then some password
  else none

/-- The authorizations that a step has sent. -/
def ActionRun.shown (run : ActionRun) : List (Option String) :=
  run.calls.map (·.request.headers.lookup "Authorization")

/-- Two passwords and two tokens. -/
theorem runAction_conceals_account : ∃ run run',
    runAction (.ofVariables (.ofAccount "me" " secret")) none {}
      (.answering "\x7b\"token\":\"pass\"\x7d") = some run ∧
    runAction (.ofVariables (.ofAccount "me" "riddle")) none {}
      (.answering "\x7b\"token\":\"leave\"\x7d") = some run' ∧
    run.Alike "secret" "riddle" run' ∧ run.exitCode = 0 ∧
    run.shown = [some "Basic bWU6c2VjcmV0", some "Bearer pass"] ∧
    run'.shown = [some "Basic bWU6cmlkZGxl", some "Bearer leave"] ∧
    ActionInputs.Masks ⟨"me", "secret", ""⟩ none {}
      (.answering "\x7b\"token\":\"pass\"\x7d") := by
  have ended : (runAction (.ofVariables (.ofAccount "me" " secret")) none {}
      (.answering "\x7b\"token\":\"pass\"\x7d")).map (fun run => (run.exitCode, run.shown)) =
        some (0, [some "Basic bWU6c2VjcmV0", some "Bearer pass"]) := by
    decide +kernel
  have ended' : (runAction (.ofVariables (.ofAccount "me" "riddle")) none {}
      (.answering "\x7b\"token\":\"leave\"\x7d")).map ActionRun.shown =
        some [some "Basic bWU6cmlkZGxl", some "Bearer leave"] := by
    decide +kernel
  have password : (ActionInputs.ofVariables (.ofAccount "me" " secret")).password = "secret" := by
    decide +kernel
  have password' : (ActionInputs.ofVariables (.ofAccount "me" "riddle")).password = "riddle" := by
    decide +kernel
  have same (name : String) (other : name ≠ "INPUT_PASSWORD") :
      Variables.ofAccount "me" " secret" name = Variables.ofAccount "me" "riddle" name := by
    simp [Variables.ofAccount, other]
  have nets : (Network.answering "\x7b\"token\":\"pass\"\x7d").Alike
      (.answering "\x7b\"token\":\"leave\"\x7d") :=
    Network.answering_alike (by decide +kernel)
  obtain ⟨runs, masks⟩ := runAction_conceals same (by rw [password]; decide)
    (by rw [password']; decide) nets none {}
  obtain ⟨run, h, ended⟩ := Option.map_eq_some_iff.mp ended
  obtain ⟨run', h', shown'⟩ := Option.map_eq_some_iff.mp ended'
  obtain ⟨exitCode, shown⟩ := Prod.mk.inj ended
  rw [h, h', password, password'] at runs
  exact ⟨run, run', h, h', Option.rel_some_some.mp runs, exitCode, shown, shown', masks _ _⟩

end PullQuota
