import PullQuota.Proofs.Appending
import Mathlib.Data.List.Basic
import Mathlib.Tactic.SplitIfs

/-!
Sessions of summaries: every file keeps what was in it and takes on, in order, the reports of just
those calls that name it.
-/

namespace PullQuota

namespace Files

variable {files files' : Files} {path : String} {place : FilePath}

instance (files : Files) (path : String) (place : FilePath) : Decidable (files.Names path place) :=
  inferInstanceAs (Decidable (_ ∧ _ ∧ _))

/-- Two trees have the same directories. -/
def SameDirectories (files files' : Files) : Prop :=
  ∀ place, files.node? place = some .directory ↔ files'.node? place = some .directory

theorem SameDirectories.symm (same : files.SameDirectories files') :
    files'.SameDirectories files :=
  fun place => (same place).symm

theorem directory_of_follow {part : String} {rest : List String} {target : FilePath}
    (h : files.follow place (part :: rest) = .ok target) : files.node? place = some .directory := by
  unfold follow at h
  split at h
  next => cases h
  next => cases h
  next there => exact there

/-- On its way a path meets directories alone, so the files do not matter. -/
theorem SameDirectories.follow {parts : List String} {target : FilePath}
    (same : files.SameDirectories files') (h : files.follow place parts = .ok target) :
    files'.follow place parts = .ok target := by
  induction parts generalizing place with
  | nil => exact h
  | cons part rest ih =>
    have there := directory_of_follow h
    have there' := (same place).mp there
    simp only [Files.follow, there, there'] at h ⊢
    split_ifs at h ⊢ with stays up long
    · exact ih h
    · exact ih h
    · exact ih h

theorem SameDirectories.locate {target : FilePath} (same : files.SameDirectories files')
    (h : files.locate path = .ok target) : files'.locate path = .ok target := by
  unfold Files.locate at h ⊢
  split_ifs at h ⊢ with empty long
  exact same.follow h

theorem SameDirectories.names_iff (same : files.SameDirectories files') :
    files.Names path place ↔ files'.Names path place := by
  have locate : files.locate path = .ok place ↔ files'.locate path = .ok place :=
    ⟨same.locate, same.symm.locate⟩
  exact and_congr locate (and_congr_right fun _ => not_congr (same place))

/-- What is at a place after bytes were added to the file there. -/
def grown (files : Files) (place : FilePath) (added : List UInt8) : Option FileNode :=
  if added = [] then files.node? place else some (.file (files.bytesAt place ++ added))

end Files

/-- A call that appends a report, and the summary file that is named then. -/
structure SummaryCall where
  file : Option String
  markdown : String

namespace SummaryCall

/-- The calls that the steps of a session make. A file stays named until it is named anew or
unset. -/
def ofSteps (file : Option String) : List SummaryStep → List SummaryCall
  | [] => []
  | step :: steps =>
    ⟨step.file.getD file, step.markdown⟩ :: ofSteps (step.file.getD file) steps

/-- No file is named. -/
def Idle (call : SummaryCall) : Prop :=
  call.file = none ∨ call.file = some ""

/-- The file that is named is the one at this place. -/
def Names (call : SummaryCall) (files : Files) (place : FilePath) : Prop :=
  ∃ path ∈ call.file, files.Names path place

instance (call : SummaryCall) (files : Files) (place : FilePath) :
    Decidable (call.Names files place) :=
  inferInstanceAs (Decidable (∃ path ∈ call.file, _))

/-- What a call has to add: its report and a line end. -/
def entry (call : SummaryCall) : List UInt8 :=
  Utf8.encode (call.markdown ++ "\n")

/-- What calls have to add at a place: in their order, the entries of those that name it. -/
def entriesAt (files : Files) (place : FilePath) (calls : List SummaryCall) : List UInt8 :=
  (calls.filter fun call => call.Names files place).flatMap entry

/-- How a call ends on files that earlier calls have left. -/
inductive Ends (call : SummaryCall) (before : Files) : SummaryResult → Prop
  | idle (unnamed : call.Idle) : Ends call before ⟨.ok call.file, before⟩
  | appended (place : FilePath) (names : call.Names before place) :
      Ends call before
        ⟨.ok call.file, before.set place (.file (before.bytesAt place ++ call.entry))⟩
  | refused (error : SummaryError) (named : ¬ call.Idle)
      (nowhere : ∀ place, ¬ call.Names before place) : Ends call before ⟨.error error, before⟩

/-- What becomes of a call, and the files after it. -/
def answer (files : Files) (call : SummaryCall) : SummaryResult :=
  match writeSummary files call.file call.markdown with
  | .ok after => ⟨.ok call.file, after⟩
  | .error error => ⟨.error error, files⟩

/-- Each call is made on the files that the one before it left. -/
def answers (files : Files) : List SummaryCall → List SummaryResult
  | [] => []
  | call :: calls => call.answer files :: answers (call.answer files).files calls

section Calls

variable {call : SummaryCall} {calls : List SummaryCall} {start files files' after : Files}
  {place place' : FilePath}

theorem Names.not_idle (h : call.Names files place) : ¬ call.Idle := by
  obtain ⟨path, named, names⟩ := h
  rintro (unset | empty)
  · simp [unset] at named
  · cases Option.some.inj (named.symm.trans empty)
    cases names.1

theorem Names.unique (h : call.Names files place) (h' : call.Names files place') :
    place = place' := by
  obtain ⟨path, named, names⟩ := h
  obtain ⟨path', named', names'⟩ := h'
  cases Option.some.inj (named.symm.trans named')
  exact Files.Names.unique names names'

theorem names_congr (same : files.SameDirectories files') :
    call.Names files place ↔ call.Names files' place :=
  exists_congr fun _ => and_congr_right fun _ => same.names_iff

theorem writeSummary_eq_ok_iff : writeSummary files call.file call.markdown = .ok after ↔
    call.Idle ∧ files = after ∨ ∃ place, call.Names files place ∧
      files.set place (.file (files.bytesAt place ++ call.entry)) = after := by
  obtain ⟨file, markdown⟩ := call
  cases file with
  | none => simp [writeSummary, Idle, Names]
  | some path =>
    by_cases empty : path = ""
    · subst empty
      have nowhere (place : FilePath) : ¬ (SummaryCall.mk (some "") markdown).Names files place :=
        fun names => names.not_idle (Or.inr rfl)
      simp [writeSummary, Idle, nowhere]
    · have named : ¬ (SummaryCall.mk (some path) markdown).Idle := by simpa [Idle] using empty
      have appends : writeSummary files (some path) markdown = .ok after ↔
          files.append path (Utf8.encode (markdown ++ "\n")) = .ok after := by
        simp only [writeSummary, if_neg empty]
        cases files.append path (Utf8.encode (markdown ++ "\n")) <;> simp
      simp [appends, Files.append_eq_ok_iff, named, Names, entry]

theorem answer_ends (call : SummaryCall) (files : Files) : call.Ends files (call.answer files) := by
  unfold answer
  cases written : writeSummary files call.file call.markdown with
  | ok after =>
    rcases writeSummary_eq_ok_iff.mp written with ⟨idle, rfl⟩ | ⟨place, names, rfl⟩
    · exact .idle idle
    · exact .appended place names
  | error error =>
    have fails (after : Files) : writeSummary files call.file call.markdown ≠ .ok after := by
      simp [written]
    refine .refused error (fun idle => ?_) fun place names => ?_
    · exact fails files (writeSummary_eq_ok_iff.mpr (Or.inl ⟨idle, rfl⟩))
    · exact fails _ (writeSummary_eq_ok_iff.mpr (Or.inr ⟨place, names, rfl⟩))

theorem entriesAt_concat : entriesAt files place (calls ++ [call]) =
    entriesAt files place calls ++ if call.Names files place then call.entry else [] := by
  by_cases names : call.Names files place <;> simp [entriesAt, names]

theorem entry_ne_nil (call : SummaryCall) : call.entry ≠ [] := by
  have lineEnd : '\n' ∈ (call.markdown ++ "\n").toList := by simp
  intro empty
  have none := List.flatMap_eq_nil_iff.mp empty '\n' lineEnd
  exact absurd none (by decide)

theorem entriesAt_directory (h : files.node? place = some .directory) :
    entriesAt files place calls = [] := by
  have unnamed : ∀ call ∈ calls, ¬ decide (call.Names files place) = true := by
    rintro call _ named
    obtain ⟨path, _, names⟩ := of_decide_eq_true named
    exact names.2.2 h
  rw [entriesAt, List.filter_eq_nil_iff.mpr unnamed, List.flatMap_nil]

end Calls

end SummaryCall

/-- Files are what they were at the start, but for the entries of these calls. -/
def Files.GrownFrom (files start : Files) (calls : List SummaryCall) : Prop :=
  ∀ place, files.node? place = start.grown place (SummaryCall.entriesAt start place calls)

namespace Files

variable {start files : Files} {calls : List SummaryCall} {call : SummaryCall}

theorem grownFrom_nil (start : Files) : start.GrownFrom start [] :=
  fun _ => rfl

theorem GrownFrom.sameDirectories (h : files.GrownFrom start calls) :
    start.SameDirectories files := by
  intro place
  rw [h place, grown]
  split
  next => rfl
  next added =>
    have file : start.node? place ≠ some .directory :=
      fun directory => added (SummaryCall.entriesAt_directory directory)
    simp [file]

theorem GrownFrom.bytesAt_eq (h : files.GrownFrom start calls) (place : FilePath) :
    files.bytesAt place = start.bytesAt place ++ SummaryCall.entriesAt start place calls := by
  unfold bytesAt
  rw [h place, grown]
  by_cases nothing : SummaryCall.entriesAt start place calls = []
  · rw [if_pos nothing, nothing, List.append_nil]
  · rw [if_neg nothing]
    rfl

/-- A call that adds nothing anywhere. -/
theorem GrownFrom.concat_of_unnamed (h : files.GrownFrom start calls)
    (unnamed : ∀ place, ¬ call.Names start place) : files.GrownFrom start (calls ++ [call]) := by
  intro place
  rw [SummaryCall.entriesAt_concat, if_neg (unnamed place), List.append_nil]
  exact h place

theorem GrownFrom.concat_of_names {place : FilePath} (h : files.GrownFrom start calls)
    (names : call.Names start place) :
    (files.set place (.file (files.bytesAt place ++ call.entry))).GrownFrom start
      (calls ++ [call]) := by
  -- The path leads to the same place now as at the start: calls make files, but no directories.
  obtain ⟨path, named, file⟩ := (SummaryCall.names_congr h.sameDirectories).mp names
  intro other
  rw [node?_set file.2.2, SummaryCall.entriesAt_concat]
  by_cases same : other = place
  · subst same
    have grows : SummaryCall.entriesAt start other calls ++ call.entry ≠ [] :=
      List.append_ne_nil_of_right_ne_nil _ call.entry_ne_nil
    rw [if_pos rfl, if_pos names, grown, if_neg grows, h.bytesAt_eq, List.append_assoc]
  · have elsewhere : ¬ call.Names start other := fun names' => same (names'.unique names)
    rw [if_neg same, if_neg elsewhere, List.append_nil]
    exact h other

/-- One call more, however it ends. -/
theorem GrownFrom.concat {result : SummaryResult} (h : files.GrownFrom start calls)
    (ends : call.Ends files result) : result.files.GrownFrom start (calls ++ [call]) := by
  cases ends with
  | idle unnamed => exact h.concat_of_unnamed fun place names => names.not_idle unnamed
  | appended place names =>
    exact h.concat_of_names ((SummaryCall.names_congr h.sameDirectories).mpr names)
  | refused error named nowhere =>
    exact h.concat_of_unnamed fun place names =>
      nowhere place ((SummaryCall.names_congr h.sameDirectories).mp names)

end Files

namespace SummaryCall

/-- The files before the first of these answers, and after each of them. -/
def statesOf (files : Files) (results : List SummaryResult) : List Files :=
  files :: results.map SummaryResult.files

/-- What a run of calls adds to the entries of earlier ones. -/
theorem answers_grownFrom {start files after : Files} {earlier calls : List SummaryCall} {n : Nat}
    (h : files.GrownFrom start earlier)
    (reached : (statesOf files (answers files calls))[n]? = some after) :
    after.GrownFrom start (earlier ++ calls.take n) := by
  induction n generalizing files earlier calls with
  | zero =>
    cases Option.some.inj reached
    simpa using h
  | succ n ih =>
    cases calls with
    | nil => simp [statesOf, answers] at reached
    | cons call calls =>
      simp only [statesOf, answers, List.map_cons, List.getElem?_cons_succ] at reached
      have next := ih (h.concat (call.answer_ends files)) reached
      simpa using next

theorem answers_end {files before : Files} {calls : List SummaryCall} {call : SummaryCall}
    {result : SummaryResult} {n : Nat} (made : calls[n]? = some call)
    (reached : (statesOf files (answers files calls))[n]? = some before)
    (answered : (answers files calls)[n]? = some result) : call.Ends before result := by
  induction n generalizing files calls with
  | zero =>
    cases calls with
    | nil => cases made
    | cons first calls =>
      cases Option.some.inj made
      cases Option.some.inj reached
      cases Option.some.inj answered
      exact answer_ends _ _
  | succ n ih =>
    cases calls with
    | nil => cases made
    | cons first calls =>
      simp only [answers, statesOf, List.map_cons, List.getElem?_cons_succ] at made reached answered
      exact ih made reached answered

theorem length_answers (files : Files) (calls : List SummaryCall) :
    (answers files calls).length = calls.length := by
  induction calls generalizing files with
  | nil => rfl
  | cons call calls ih => simp [answers, ih]

theorem length_ofSteps (file : Option String) (steps : List SummaryStep) :
    (ofSteps file steps).length = steps.length := by
  induction steps generalizing file with
  | nil => rfl
  | cons step steps ih => simp [ofSteps, ih]

theorem appendSummary_eq (files : Files) (file : Option String) (step : SummaryStep) :
    let call : SummaryCall := ⟨step.file.getD file, step.markdown⟩
    appendSummary files file step = (call.answer files, (call.answer files).files, call.file) := by
  unfold appendSummary answer
  dsimp only
  cases writeSummary files (step.file.getD file) step.markdown <;> rfl

/-- A session makes the calls of its steps one after the other. -/
theorem runSession_summaries (files : Files) (file : Option String) (steps : List SummaryStep) :
    runSession (fun files file step => some (appendSummary files file step)) files file
      (steps.map .act) = (answers files (ofSteps file steps)).map some := by
  induction steps generalizing files file with
  | nil => rfl
  | cons step steps ih =>
    rw [List.map_cons, runSession, appendSummary_eq]
    exact congrArg _ (ih _ _)

end SummaryCall

/-- How a call is answered on files that earlier calls have left since the start. -/
structure SummaryCall.Answered (call : SummaryCall) (start before : Files)
    (result : SummaryResult) : Prop where
  fails_iff : (∃ error, result.outcome = .error error) ↔
    ¬ call.Idle ∧ ∀ place, ¬ call.Names start place
  spares : (call.Idle ∨ ∃ error, result.outcome = .error error) → result.files = before

theorem SummaryCall.Ends.answered {call : SummaryCall} {start before : Files}
    {result : SummaryResult} (h : call.Ends before result) (same : start.SameDirectories before) :
    call.Answered start before result := by
  cases h with
  | idle unnamed => exact ⟨by simp [unnamed], fun _ => rfl⟩
  | appended place names =>
    have named := names.not_idle
    have there : call.Names start place := (names_congr same).mpr names
    constructor
    · exact iff_of_false (by simp) fun ⟨_, nowhere⟩ => nowhere place there
    · simp [named]
  | refused error named nowhere =>
    have nowhere' (place : FilePath) : ¬ call.Names start place :=
      fun names => nowhere place ((names_congr same).mp names)
    exact ⟨by simp [named, nowhere'], fun _ => rfl⟩

/-- A session of summaries answers every call. After any number of calls each file holds what it
held at the start, and after it, in their order, the reports of just those calls that named it, each
with a line end; all else is as it was. A call fails just if a file is named that cannot be appended
to. If it fails, or if no file is named, it leaves the files as they are. -/
theorem summarySession_accumulates (files : Files) (steps : List SummaryStep) :
    ∃ results : List SummaryResult,
      summarySession files (steps.map .act) = results.map some ∧
      results.length = steps.length ∧
      (∀ (n : Nat) (after : Files), (SummaryCall.statesOf files results)[n]? = some after →
        after.GrownFrom files ((SummaryCall.ofSteps none steps).take n)) ∧
      ∀ (n : Nat) (call : SummaryCall) (before : Files) (result : SummaryResult),
        (SummaryCall.ofSteps none steps)[n]? = some call →
        (SummaryCall.statesOf files results)[n]? = some before → results[n]? = some result →
        call.Answered files before result := by
  have grows {n : Nat} {after : Files} (reached : (SummaryCall.statesOf files
      (SummaryCall.answers files (SummaryCall.ofSteps none steps)))[n]? = some after) :
      after.GrownFrom files ((SummaryCall.ofSteps none steps).take n) :=
    SummaryCall.answers_grownFrom files.grownFrom_nil reached
  refine ⟨SummaryCall.answers files (SummaryCall.ofSteps none steps),
    SummaryCall.runSession_summaries files none steps, ?_, fun n after => grows, ?_⟩
  · rw [SummaryCall.length_answers, SummaryCall.length_ofSteps]
  · intro n call before result made reached answered
    exact (SummaryCall.answers_end made reached answered).answered (grows reached).sameDirectories

/-- A directory with one report. -/
def Files.reports : Files :=
  ⟨[(["reports"], .directory), (["reports", "day.md"], .file (Utf8.encode "old\n"))]⟩

/-- The report is named in two ways; in between a file is named that cannot be made, and none. -/
def SummaryStep.wandering : List SummaryStep :=
  [⟨some (some "./reports/day.md"), "first"⟩, ⟨some (some "missing/day.md"), "lost"⟩,
    ⟨some (some ""), "unsaid"⟩, ⟨some (some "reports/../reports//day.md"), "second\nthird"⟩,
    ⟨none, ""⟩]

theorem summarySession_accumulates_wandering : ∃ results : List SummaryResult,
    summarySession .reports (SummaryStep.wandering.map .act) = results.map some ∧
      (∃ after, (SummaryCall.statesOf .reports results)[5]? = some after ∧
        after.node? ["reports", "day.md"] =
          some (.file (Utf8.encode "old\nfirst\nsecond\nthird\n\n"))) ∧
      ∃ before result, (SummaryCall.statesOf .reports results)[1]? = some before ∧
        results[1]? = some result ∧ (∃ error, result.outcome = .error error) ∧
        result.files = before := by
  obtain ⟨results, session, length, grown, answered⟩ :=
    summarySession_accumulates .reports SummaryStep.wandering
  have count : results.length = 5 := length
  have states : (SummaryCall.statesOf .reports results).length = 6 := by
    simp [SummaryCall.statesOf, count]
  have state (n : Nat) (bound : n < 6) : ∃ files, (SummaryCall.statesOf .reports results)[n]? =
      some files :=
    ⟨_, List.getElem?_eq_getElem (states ▸ bound)⟩
  obtain ⟨after, reached⟩ := state 5 (by decide)
  obtain ⟨before, started⟩ := state 1 (by decide)
  have answer : results[1]? = some results[1] := List.getElem?_eq_getElem (by omega)
  have refused := answered 1 ⟨some "missing/day.md", "lost"⟩ before _ rfl started answer
  have lost : Files.reports.locate "missing/day.md" = .error .missing := by decide +kernel
  have fails : ∃ error, results[1].outcome = .error error := by
    refine refused.fails_iff.mpr ⟨by simp [SummaryCall.Idle], ?_⟩
    rintro place ⟨path, named, names⟩
    cases named
    cases lost.symm.trans names.1
  refine ⟨results, session, ⟨after, reached, ?_⟩, before, _, started, answer, fails,
    refused.spares (Or.inr fails)⟩
  rw [grown 5 after reached]
  decide +kernel

end PullQuota
