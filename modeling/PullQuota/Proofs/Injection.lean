import PullQuota.Proofs.Commands
import PullQuota.Proofs.Masking

/-!
What inputs can make the runner do: the line that tells the user name is the only one of a step in
which the runner can read what the step does not mean.
-/

namespace PullQuota

namespace LogLine

theorem faithful_debug (message : String) : (debug message).Faithful :=
  faithful_of_command rfl rfl (by decide)

theorem faithful_warning (message : String) : (warning message).Faithful :=
  faithful_of_command rfl rfl (by decide)

theorem faithful_error (message : String) : (error message).Faithful :=
  faithful_of_command rfl rfl (by decide)

theorem faithful_mask (secret : String) : (mask secret).Faithful :=
  faithful_of_command rfl rfl (by decide)

end LogLine

/-- Of the console text neither line starts with the mark, whatever the numbers are. -/
theorem Report.faithful_console (report : Report) : (LogLine.info report.console).Faithful := by
  have number (n : Number) : '\n' ∉ n.text.toList := Number.notMem_text (by decide) n
  have count : '\n' ∉ decimalDigits report.warnings.length := by
    intro mem
    cases isDigit_of_mem_decimalDigits mem
  have first : '\n' ∉ ("DockerHub pulls: " ++ report.quota.remainingText ++ "/" ++
      report.quota.limitText ++ " remaining (" ++ report.quota.percentText ++ " used)").toList := by
    simp [Quota.remainingText, Quota.limitText, Quota.percentText, number]
  have second : '\n' ∉ ("Warnings: " ++ toString report.warnings.length).toList := by
    rw [String.toList_append, toList_toString]
    simp [count]
  rw [LogLine.faithful_info_iff]
  refine ⟨?_, fun injected => ?_⟩
  · unfold console lines
    split <;> simp [LogLine.mark]
  · unfold console lines at injected
    split at injected
    next => exact first (by simpa using injected.subset List.mem_cons_self)
    next =>
      rw [String.intercalate_cons_cons, String.toList_append, String.toList_append,
        List.append_assoc, cons_infix_append_iff first] at injected
      rcases List.infix_cons_iff.mp injected with begins | inside
      · simp [LogLine.mark] at begins
      · exact second (inside.subset List.mem_cons_self)

theorem Report.log_faithful (report : Report) : ∀ line ∈ report.log, line.Faithful := by
  intro line mem
  rcases List.mem_append.mp mem with mem | mem
  · rcases List.mem_append.mp mem with mem | mem
    · rcases List.mem_cons.mp mem with rfl | mem
      · exact LogLine.faithful_output (by decide) _
      · cases List.mem_singleton.mp mem
        exact LogLine.faithful_output (by decide) _
    · obtain ⟨message, _, rfl⟩ := List.mem_map.mp mem
      exact LogLine.faithful_warning message
  · cases List.mem_singleton.mp mem
    exact report.faithful_console

/-- A user name is told as plain text. -/
theorem checkingLine_faithful_iff (inputs : ProbeInputs) :
    (checkingLine inputs).Faithful ↔ ¬ "\n::".toList <:+: inputs.username.toList := by
  have mark : "\n::".toList = '\n' :: LogLine.mark := by decide
  rw [checkingLine, LogLine.faithful_info_iff, mark]
  by_cases unnamed : inputs.username = ""
  · simp [ProbeInputs.credentials, unnamed, LogLine.mark]
    decide
  · have named : inputs.credentials.authentication = true := by
      simp [ProbeInputs.credentials, unnamed]
    have last : '\n' :: LogLine.mark = ['\n', ':'] ++ [':'] := by decide
    have before : '\n' ∉ "Checking DockerHub pull rate limit (as ".toList := by decide
    have after : ':' ∉ ")...".toList := by decide
    have text : ("Checking DockerHub pull rate limit (" ++ ("as " ++ inputs.username) ++
        ")...").toList = "Checking DockerHub pull rate limit (as ".toList ++
          (inputs.username.toList ++ ")...".toList) := by
      simp
    rw [if_pos named, text, cons_infix_append_iff before, last, concat_infix_append_iff after]
    exact and_iff_right (by simp [LogLine.mark])

theorem inquire_writes (access : Access) (credentials : Credentials) (net : Network) :
    (inquire access credentials net).Writes LogLine.Faithful := by
  have debug (message : String) : ∀ line ∈ [LogLine.debug message], line.Faithful :=
    List.forall_mem_singleton.mpr (LogLine.faithful_debug message)
  refine (Course.writes_write (debug _)).bind fun _ =>
    (Course.writes_send _ _).bind fun first => ?_
  cases first.outcome with
  | failed failure => exact Course.writes_pure _
  | broken breakdown => exact Course.writes_pure _
  | done bearer =>
    refine (Course.writes_write (debug _)).bind fun _ => ?_
    refine (Course.writes_send _ _).bind fun second => ?_
    refine (Course.writes_write ?_).bind fun _ => Course.writes_pure _
    cases second.outcome with
    | done quota => exact debug _
    | failed failure => exact List.forall_mem_nil _
    | broken breakdown => exact List.forall_mem_nil _

section Steps

variable {summaryFile : Option String} {files : Files} {net : Network}

theorem ProbeInputs.course_writes (inputs : ProbeInputs) :
    (inputs.course summaryFile files net).Writes
      fun line => line.Faithful ∨ line = checkingLine inputs := by
  refine (Course.writes_write ?_).bind fun _ => ?_
  · exact List.forall_mem_singleton.mpr (Or.inr rfl)
  refine ((inquire_writes _ _ _).mono fun _ => Or.inl).bind fun (outcome, after) => ?_
  cases outcome with
  | failed failure => exact Course.writes_pure _
  | broken breakdown => exact Course.writes_pure _
  | done quota =>
    refine (Course.writes_write fun line mem => Or.inl ?_).bind fun _ => ?_
    · exact (inputs.report quota).log_faithful line mem
    cases writeSummary files summaryFile (inputs.report quota).markdown with
    | error error => exact Course.writes_pure _
    | ok files => exact Course.writes_pure _

namespace ActionInputs

variable {inputs : ActionInputs}

theorem masking_faithful (inputs : ActionInputs) : ∀ line ∈ inputs.masking, line.Faithful := by
  unfold masking
  split
  next => exact List.forall_mem_nil _
  next => exact List.forall_mem_singleton.mpr (LogLine.faithful_mask _)

theorem error_faithful (message : String) : ∀ line ∈ [LogLine.error message], line.Faithful :=
  List.forall_mem_singleton.mpr (LogLine.faithful_error message)

theorem course_writes_of_invalid (invalid : inputs.Invalid) :
    (inputs.course summaryFile files net).Writes LogLine.Faithful := by
  unfold course
  split
  next => exact (Course.writes_write (error_faithful _)).bind fun _ => Course.writes_pure _
  next given =>
    refine (Course.writes_write inputs.masking_faithful).bind fun _ => ?_
    cases ht : inputs.threshold? with
    | none => exact (Course.writes_write (error_faithful _)).bind fun _ => Course.writes_pure _
    | some threshold =>
      have has := threshold?_eq_some_iff.mp ht
      exact absurd (has) (invalid.resolve_left given threshold)

theorem course_writes (inputs : ActionInputs) : (inputs.course summaryFile files net).Writes
    fun line => line.Faithful ∨ line = checkingLine (inputs.probe 0) := by
  have faithful {log : List LogLine} (h : ∀ line ∈ log, line.Faithful) : (Course.write log).Writes
      fun line => line.Faithful ∨ line = checkingLine (inputs.probe 0) :=
    Course.writes_write fun line mem => Or.inl (h line mem)
  unfold course
  split
  next => exact (faithful (error_faithful _)).bind fun _ => Course.writes_pure _
  next =>
    refine (faithful inputs.masking_faithful).bind fun _ => ?_
    cases inputs.threshold? with
    | none => exact (faithful (error_faithful _)).bind fun _ => Course.writes_pure _
    | some threshold =>
      refine (inputs.probe threshold).course_writes.bind fun (outcome, files, after) => ?_
      cases outcome with
      | ok => exact Course.writes_pure _
      | error error => exact (faithful (error_faithful _)).bind fun _ => Course.writes_pure _

/-- With valid inputs a step gets as far as its check. -/
theorem checkingLine_mem_log (valid : ¬ inputs.Invalid) :
    checkingLine (inputs.probe 0) ∈ (inputs.course summaryFile files net).log := by
  obtain ⟨given, n, has⟩ : ¬ (inputs.username ≠ "" ∧ inputs.password = "") ∧
      ∃ n, inputs.HasThreshold n := by
    simpa [Invalid, not_or] using valid
  have checked : .wrote (checkingLine (inputs.probe 0)) ∈
      ((inputs.probe n).course summaryFile files net).deeds :=
    Course.mem_deeds_bind.mpr (Or.inl (List.mem_singleton.mpr rfl))
  rw [Course.mem_log, course, if_neg given, threshold?_eq_some_iff.mpr has]
  exact Course.mem_deeds_bind.mpr (Or.inr ⟨(), rfl, Course.mem_deeds_bind.mpr (Or.inl checked)⟩)

theorem log_eq_course_log {run : ActionRun}
    (h : runAction inputs summaryFile files net = some run) :
    run.log = (inputs.course summaryFile files net).log := by
  have recorded : (inputs.course summaryFile files net).record? = _ := inputs.course_record?
  rw [h] at recorded
  obtain ⟨result, _, same⟩ := Option.map_eq_some_iff.mp recorded
  exact (congrArg Record.log same).symm

/-- The runner reads in the output of a step what the step means, and no other commands, but for
one case: the inputs are valid, and in the user name a line end comes before the mark of a command.
The other inputs and all that is received cannot do this. It does not matter whether the step
ends. -/
theorem commandsRead_eq_meant_iff (inputs : ActionInputs) (summaryFile : Option String)
    (files : Files) (net : Network) :
    (∀ run, runAction inputs summaryFile files net = some run →
      run.log = (inputs.course summaryFile files net).log) ∧
    (commandsRead (inputs.course summaryFile files net).log =
        commandsMeant (inputs.course summaryFile files net).log ↔
      inputs.Invalid ∨ ¬ "\n::".toList <:+: inputs.username.toList) := by
  refine ⟨fun run => log_eq_course_log, ?_⟩
  have writes (line : LogLine) (mem : line ∈ (inputs.course summaryFile files net).log) :
      line.Faithful ∨ line = checkingLine (inputs.probe 0) :=
    inputs.course_writes line (Course.mem_log.mp mem)
  have meant (line : LogLine) (mem : line ∈ (inputs.course summaryFile files net).log) :
      line.Faithful ∨ line.meant = [] := by
    rcases writes line mem with faithful | rfl
    · exact Or.inl faithful
    · exact Or.inr rfl
  rw [commandsRead_eq_iff meant]
  constructor
  · intro faithful
    refine or_iff_not_imp_left.mpr fun valid => ?_
    exact (checkingLine_faithful_iff _).mp (faithful _ (checkingLine_mem_log valid))
  · rintro (invalid | plain) line mem
    · exact course_writes_of_invalid invalid line (Course.mem_log.mp mem)
    · rcases writes line mem with faithful | rfl
      · exact faithful
      · exact (checkingLine_faithful_iff _).mpr plain

end ActionInputs

end Steps

/-- A command in a password does no harm. -/
theorem commandsRead_eq_meant_guarded : ∃ run,
    runAction ⟨"me", "secret\n::error::forged", ""⟩ none {}
      (.answering "\x7b\"token\":\"pass\"\x7d") = some run ∧
    run.exitCode = 0 ∧ commandsRead run.log = commandsMeant run.log := by
  have ended : (runAction ⟨"me", "secret\n::error::forged", ""⟩ none {}
      (.answering "\x7b\"token\":\"pass\"\x7d")).map (·.exitCode) = some 0 := by
    decide +kernel
  obtain ⟨run, h, exitCode⟩ := Option.map_eq_some_iff.mp ended
  obtain ⟨logs, commands⟩ := ActionInputs.commandsRead_eq_meant_iff
    ⟨"me", "secret\n::error::forged", ""⟩ none {} (.answering "\x7b\"token\":\"pass\"\x7d")
  refine ⟨run, h, exitCode, ?_⟩
  rw [logs run h]
  exact commands.mpr (Or.inr (by decide))

/-- A command in a user name is obeyed. -/
theorem commandsRead_forged : ∃ run,
    runAction (.ofVariables (.ofAccount "me\n::error::forged" "secret")) none {}
      (.answering "\x7b\"token\":\"pass\"\x7d") = some run ∧
    run.exitCode = 0 ∧ "::error::forged)...".toList ∈ commandsRead run.log ∧
    "::error::forged)...".toList ∉ commandsMeant run.log := by
  have ended : (runAction (.ofVariables (.ofAccount "me\n::error::forged" "secret")) none {}
      (.answering "\x7b\"token\":\"pass\"\x7d")).map (fun run => (run.exitCode, run.log)) =
      some (0, [.mask "secret",
        .info "Checking DockerHub pull rate limit (as me\n::error::forged)...",
        .debug "Requesting DockerHub token (authenticated)", .debug "Received DockerHub token",
        .debug "DockerHub rate limit: 76/100 remaining", .output "limit" "100",
        .output "remaining" "76", .info "DockerHub pulls: 76/100 remaining (24% used)"]) := by
    decide +kernel
  obtain ⟨run, h, ended⟩ := Option.map_eq_some_iff.mp ended
  obtain ⟨exitCode, log⟩ := Prod.mk.inj ended
  refine ⟨run, h, exitCode, ?_⟩
  rw [log, commandsRead_eq_flatMap]
  decide +kernel

end PullQuota
