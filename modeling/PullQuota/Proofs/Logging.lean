import PullQuota.Proofs.Admission
import PullQuota.Proofs.Lines

/-!
What a request to the service leaves in the log: the progress of an inquiry, and a complaint if the
request is refused. What is logged cannot pass for more lines than these.
-/

namespace PullQuota

/-- A JSON answer that is no success. -/
def Answer.IsRefusal (answer : Answer) : Prop :=
  answer.contentType = "application/json" ∧ answer.status ≠ 200

/-- What the log tells of a refusal. -/
def Refusal.complaint (refusal : Refusal) (id : String) : String :=
  "[dockerhub-status] endpoint=" ++ id ++ " kind=" ++ refusal.kind.name ++ ": " ++ refusal.details

/-- A line that tells a text in escaped form, as an error for status 500 and else as a warning. -/
inductive Complains (text : String) : Nat → List Char → Prop
  | error (data : List Char) (told : LogLine.unescape data = text.toList) :
      Complains text 500 ("::error::".toList ++ data)
  | warning (status : Nat) (known : status = 400 ∨ status = 404) (data : List Char)
      (told : LogLine.unescape data = text.toList) :
      Complains text status ("::warning::".toList ++ data)

theorem refusalLine_complains (id : String) (refusal : Refusal) :
    ∃ line, (refusalLine id refusal).lines = [line] ∧ '\r' ∉ line ∧
      Complains (refusal.complaint id) refusal.kind.httpStatus line := by
  have told := LogLine.unescape_escape (refusal.complaint id)
  unfold refusalLine
  rcases refusal.kind.httpStatus_cases with status | status
  · rw [if_pos status, status]
    refine ⟨_, LogLine.lines_of_command rfl (by decide),
      LogLine.notMem_commandText (Or.inr rfl) (by decide) _, ?_⟩
    rw [LogLine.commandText, String.toList_append]
    exact .error _ told
  · rw [if_neg (by omega)]
    refine ⟨_, LogLine.lines_of_command rfl (by decide),
      LogLine.notMem_commandText (Or.inr rfl) (by decide) _, ?_⟩
    rw [LogLine.commandText, String.toList_append]
    exact .warning _ status _ told

/-- What an inquiry logs that was made with the account of a store, or nothing. -/
def IsProgress (store : Store) (access : Access) (net : Network) (log : List LogLine) : Prop :=
  log = [] ∨ ∃ credentials inquiry, store.credentials = .ok credentials ∧
    fetchQuota access credentials net = some inquiry ∧ log = inquiry.log

/-- How the log of a request reads: `progress` comes from the inquiry, and `last` is there just if
the request is refused, and tells why. -/
structure Served.Logs (served : Served) (store : Store) (access : Access) (route : Route)
    (net : Network) (progress last : List (List Char)) : Prop where
  lines : (renderLog served.log).toList.splitOn '\n' = progress ++ last ++ [[]]
  plain : ∀ line ∈ progress ++ last, '\r' ∉ line
  debug : ∀ line ∈ progress, "::debug::".toList <+: line
  inquiry : ∃ log, IsProgress store access net log ∧ progress = log.flatMap LogLine.lines
  refused : last ≠ [] ↔ served.answer.IsRefusal
  complaint : ∀ line ∈ last, last = [line] ∧ ∃ id resolved refusal, route = .status id ∧
    resolveStatus store access id net = some resolved ∧ resolved.resolution = .refused refusal ∧
    served.answer.status = refusal.kind.httpStatus ∧
    Complains (refusal.complaint id) served.answer.status line

section Logs

variable {store : Store} {access : Access} {net : Network}

theorem IsProgress.lines {log : List LogLine} (h : IsProgress store access net log) :
    ∀ line ∈ log.flatMap LogLine.lines, '\r' ∉ line ∧ "::debug::".toList <+: line := by
  have told : ∀ part ∈ log, ∃ message, part = .debug message := by
    rcases h with rfl | ⟨_, inquiry, _, asked, rfl⟩
    · simp
    · exact fetchQuota_log_debug asked
  intro line mem
  obtain ⟨part, hp, mem⟩ := List.mem_flatMap.mp mem
  obtain ⟨message, rfl⟩ := told part hp
  rw [LogLine.lines_of_command rfl (by decide), List.mem_singleton] at mem
  subst mem
  refine ⟨LogLine.notMem_commandText (Or.inr rfl) (by decide) _, ?_⟩
  rw [LogLine.commandText, String.toList_append]
  exact List.prefix_append _ _

theorem resolveStatus_progress {id : String} {resolved : Resolved}
    (h : resolveStatus store access id net = some resolved) :
    IsProgress store access net resolved.log := by
  rcases resolveStatus_eq_some h with ⟨_, rfl, _⟩ | ⟨credentials, account, h⟩
  · exact Or.inl rfl
  · obtain ⟨inquiry, asked, rfl⟩ := Option.map_eq_some_iff.mp h
    exact Or.inr ⟨credentials, inquiry, account, asked, rfl⟩

/-- A request that logs nothing but progress. -/
theorem Served.logs_progress {served : Served} {route : Route}
    (progress : IsProgress store access net served.log) (unrefused : ¬ served.answer.IsRefusal) :
    served.Logs store access route net (served.log.flatMap LogLine.lines) [] where
  lines := by rw [splitOn_renderLog, List.append_nil]
  plain line mem := (progress.lines line (by simpa using mem)).1
  debug line mem := (progress.lines line mem).2
  inquiry := ⟨served.log, progress, rfl⟩
  refused := by simp [unrefused]
  complaint := by simp

/-- A request that logs a complaint after its progress. -/
theorem Served.logs_complaint {served : Served} {id : String} {resolved : Resolved}
    {refusal : Refusal} (h : resolveStatus store access id net = some resolved)
    (refused : resolved.resolution = .refused refusal)
    (log : served.log = resolved.log ++ [refusalLine id refusal])
    (status : served.answer.status = refusal.kind.httpStatus)
    (json : served.answer.contentType = "application/json") :
    ∃ line, served.Logs store access (.status id) net (resolved.log.flatMap LogLine.lines)
      [line] := by
  have progress := resolveStatus_progress h
  obtain ⟨line, last, plain, complains⟩ := refusalLine_complains id refusal
  rw [← status] at complains
  exact ⟨line,
    { lines := by simp [splitOn_renderLog, log, last]
      plain := by
        intro other mem
        rcases List.mem_append.mp mem with mem | mem
        · exact (progress.lines other mem).1
        · rwa [List.mem_singleton.mp mem]
      debug := fun line mem => (progress.lines line mem).2
      inquiry := ⟨resolved.log, progress, rfl⟩
      refused := by
        have cases := refusal.kind.httpStatus_cases
        exact iff_of_true (by simp) ⟨json, by omega⟩
      complaint := by
        intro other mem
        cases List.mem_singleton.mp mem
        exact ⟨rfl, id, resolved, refusal, rfl, h, refused, status, complains⟩ }⟩

theorem Resolved.serve_logs {id : String} {resolved : Resolved}
    (h : resolveStatus store access id net = some resolved) :
    ∃ progress last, (resolved.serve id).Logs store access (.status id) net progress last := by
  have progress := resolveStatus_progress h
  cases hr : resolved.resolution with
  | quota quota =>
    have log : (resolved.serve id).log = resolved.log := by simp [serve, hr]
    rw [← log] at progress
    exact ⟨_, _, Served.logs_progress progress (by simp [Answer.IsRefusal, serve, hr, Answer.json])⟩
  | broken breakdown =>
    have log : (resolved.serve id).log = resolved.log := by simp [serve, hr]
    rw [← log] at progress
    exact ⟨_, _, Served.logs_progress progress (by simp [Answer.IsRefusal, serve, hr, Answer.text])⟩
  | refused refusal =>
    have log : (resolved.serve id).log = resolved.log ++ [refusalLine id refusal] := by
      simp [serve, hr]
    obtain ⟨line, logs⟩ := Served.logs_complaint h hr log (by simp [serve, hr, Answer.json])
      (by simp [serve, hr, Answer.json])
    exact ⟨_, _, logs⟩

theorem Served.Logs.withoutBody {served : Served} {route : Route} {progress last : List (List Char)}
    (h : served.Logs store access route net progress last) :
    { served with answer := served.answer.withoutBody }.Logs store access route net progress last :=
  ⟨h.lines, h.plain, h.debug, h.inquiry, h.refused, h.complaint⟩

theorem serveRoute_logs {route : Route} {served : Served}
    (h : serveRoute store access route net = some served) :
    ∃ progress last, served.Logs store access route net progress last := by
  cases route with
  | health =>
    cases Option.some.inj h
    exact ⟨_, _, Served.logs_progress (Or.inl rfl) (by simp [Answer.IsRefusal, Answer.json])⟩
  | unknown =>
    cases Option.some.inj h
    exact ⟨_, _, Served.logs_progress (Or.inl rfl)
      (by simp [Answer.IsRefusal, Answer.notFound, Answer.text])⟩
  | status id =>
    obtain ⟨resolved, hr, rfl⟩ := Option.map_eq_some_iff.mp h
    exact Resolved.serve_logs hr

end Logs

end PullQuota
