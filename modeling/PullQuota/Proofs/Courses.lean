import PullQuota.Proofs.Publication

/-!
The course of a workflow step: what it writes and what it sends, in the order in which it does so.
A step that never ends has a course too.
-/

namespace PullQuota

/-- What is seen of a step from outside. -/
inductive Deed
  | wrote (line : LogLine)
  | sent (request : Request)

namespace Deed

def line? : Deed → Option LogLine
  | wrote line => some line
  | sent _ => none

def request? : Deed → Option Request
  | wrote _ => none
  | sent request => some request

end Deed

/-- Deeds one after the other, and the result, unless something is waited for without end. -/
structure Course (α : Type) where
  deeds : List Deed
  result : Option α

/-- What remains of a course that has ended: lines and requests, but not how they alternated. -/
structure Record (α : Type) where
  result : α
  log : List LogLine
  requests : List Request

namespace Course

variable {α β : Type}

/-- Nothing is done after what does not end. -/
instance : Monad Course where
  pure a := ⟨[], some a⟩
  bind course next :=
    match course.result with
    | none => ⟨course.deeds, none⟩
    | some a => ⟨course.deeds ++ (next a).deeds, (next a).result⟩

theorem mem_deeds_bind {course : Course α} {next : α → Course β} {deed : Deed} :
    deed ∈ (course >>= next).deeds ↔
      deed ∈ course.deeds ∨ ∃ a, course.result = some a ∧ deed ∈ (next a).deeds := by
  obtain ⟨deeds, result⟩ := course
  cases result with
  | none => simp [bind]
  | some a => simp [bind]

def write (log : List LogLine) : Course Unit :=
  ⟨log.map .wrote, some ()⟩

/-- Sends a request and waits for the answer. -/
def send (request : Request) (answer : Option α) : Course α :=
  ⟨[.sent request], answer⟩

/-- What has been written when a course is over, or waits without end. -/
def log (course : Course α) : List LogLine :=
  course.deeds.filterMap Deed.line?

/-- The requests of a course, in their order. -/
def requests (course : Course α) : List Request :=
  course.deeds.filterMap Deed.request?

theorem requests_bind (course : Course α) (next : α → Course β) :
    (course >>= next).requests =
      course.requests ++ (course.result.map (next · |>.requests)).getD [] := by
  obtain ⟨deeds, result⟩ := course
  cases result <;> simp [requests, bind]

@[simp] theorem requests_pure (a : α) : (pure a : Course α).requests = [] := rfl

@[simp] theorem log_write (log : List LogLine) : (write log).log = log := by
  rw [Course.log, write, List.filterMap_map]
  exact List.filterMap_some

@[simp] theorem requests_write (log : List LogLine) : (write log).requests = [] := by
  simp [requests, write, List.filterMap_map, Function.comp_def, Deed.request?]

@[simp] theorem result_write (log : List LogLine) : (write log).result = some () := rfl

@[simp] theorem requests_send (request : Request) (answer : Option α) :
    (send request answer).requests = [request] := rfl

@[simp] theorem result_send (request : Request) (answer : Option α) :
    (send request answer).result = answer := rfl

def record? (course : Course α) : Option (Record α) :=
  course.result.map (⟨·, course.log, course.requests⟩)

@[simp] theorem record?_pure (a : α) : (pure a : Course α).record? = some ⟨a, [], []⟩ := rfl

theorem record?_bind (course : Course α) (next : α → Course β) :
    (course >>= next).record? = course.record?.bind fun first =>
      (next first.result).record?.map fun second =>
        ⟨second.result, first.log ++ second.log, first.requests ++ second.requests⟩ := by
  obtain ⟨deeds, result⟩ := course
  cases result with
  | none => rfl
  | some a => simp [record?, log, requests, bind, Function.comp_def]

@[simp] theorem record?_write (log : List LogLine) : (write log).record? = some ⟨(), log, []⟩ := by
  simp [record?]

@[simp] theorem record?_send (request : Request) (answer : Option α) :
    (send request answer).record? = answer.map (⟨·, [], [request]⟩) := rfl

end Course

namespace Course

variable {α β : Type} {allowed : Request → Prop}

/-- Every request that is sent is one of those. -/
def Sends (allowed : Request → Prop) (course : Course α) : Prop :=
  ∀ request, .sent request ∈ course.deeds → allowed request

theorem sends_pure (a : α) : (pure a : Course α).Sends allowed :=
  fun _ mem => absurd mem List.not_mem_nil

theorem sends_write (log : List LogLine) : (write log).Sends allowed := by
  intro request mem
  obtain ⟨line, _, wrote⟩ := List.mem_map.mp mem
  cases wrote

theorem sends_send {request : Request} (permitted : allowed request) (answer : Option α) :
    (send request answer).Sends allowed := by
  intro sent mem
  cases List.mem_singleton.mp mem
  exact permitted

theorem Sends.bind {course : Course α} {next : α → Course β} (first : course.Sends allowed)
    (rest : ∀ a, (next a).Sends allowed) : (course >>= next).Sends allowed := by
  intro request mem
  rcases mem_deeds_bind.mp mem with earlier | ⟨a, _, later⟩
  · exact first request earlier
  · exact rest a request later

end Course

/-- The course of an inquiry. -/
def inquire (access : Access) (credentials : Credentials) (net : Network) :
    Course (Outcome Quota × Network) := do
  Course.write
    [.debug ("Requesting DockerHub token (" ++ accessName credentials.authentication ++ ")")]
  let token ← Course.send (tokenRequest access.urls credentials) (fetchToken access credentials net)
  match token.outcome with
  | .failed failure => pure (.failed failure, token.network)
  | .broken breakdown => pure (.broken breakdown, token.network)
  | .done bearer =>
    Course.write [.debug "Received DockerHub token"]
    let limits ← Course.send (limitsRequest access.urls bearer)
      (fetchLimits access bearer token.network)
    Course.write (match limits.outcome with | .done quota => [quotaLine quota] | _ => [])
    pure (limits.outcome, limits.network)

/-- The course of a probe. -/
def ProbeInputs.course (inputs : ProbeInputs) (summaryFile : Option String) (files : Files)
    (net : Network) : Course (Except ProbeError Unit × Files × Network) := do
  Course.write [checkingLine inputs]
  let (outcome, net) ← inquire {} inputs.credentials net
  match outcome with
  | .failed failure => pure (.error (.failed failure), files, net)
  | .broken breakdown => pure (.error (.broken breakdown), files, net)
  | .done quota =>
    Course.write (inputs.report quota).log
    match writeSummary files summaryFile (inputs.report quota).markdown with
    | .error error => pure (.error (.summary error), files, net)
    | .ok files => pure (.ok (), files, net)

/-- The course of a workflow step, with its exit code. -/
def ActionInputs.course (inputs : ActionInputs) (summaryFile : Option String) (files : Files)
    (net : Network) : Course (Nat × Files × Network) :=
  if inputs.username ≠ "" ∧ inputs.password = "" then do
    Course.write [.error InputError.passwordMissing.message]
    pure (1, files, net)
  else do
    Course.write inputs.masking
    match inputs.threshold? with
    | none =>
      Course.write [.error (InputError.badThreshold inputs.threshold).message]
      pure (1, files, net)
    | some threshold =>
      let (outcome, files, net) ← (inputs.probe threshold).course summaryFile files net
      match outcome with
      | .ok () => pure (0, files, net)
      | .error error =>
        Course.write [.error error.message]
        pure (1, files, net)

/-- An inquiry sends a request for a token, and requests with a token. -/
theorem inquire_sends {access : Access} {credentials : Credentials} {net : Network}
    {allowed : Request → Prop} (token : allowed (tokenRequest access.urls credentials))
    (limits : ∀ token, allowed (limitsRequest access.urls token)) :
    (inquire access credentials net).Sends allowed := by
  refine (Course.sends_write _).bind fun _ => (Course.sends_send token _).bind fun first => ?_
  cases first.outcome with
  | failed failure => exact Course.sends_pure _
  | broken breakdown => exact Course.sends_pure _
  | done bearer =>
    refine (Course.sends_write _).bind fun _ => ?_
    refine (Course.sends_send (limits bearer) _).bind fun second => ?_
    exact (Course.sends_write _).bind fun _ => Course.sends_pure _

section Steps

variable {summaryFile : Option String} {files : Files} {net : Network} {allowed : Request → Prop}

theorem ProbeInputs.course_sends (inputs : ProbeInputs)
    (asked : (inquire {} inputs.credentials net).Sends allowed) :
    (inputs.course summaryFile files net).Sends allowed := by
  refine (Course.sends_write _).bind fun _ => asked.bind fun (outcome, after) => ?_
  cases outcome with
  | failed failure => exact Course.sends_pure _
  | broken breakdown => exact Course.sends_pure _
  | done quota =>
    refine (Course.sends_write _).bind fun _ => ?_
    cases writeSummary files summaryFile (inputs.report quota).markdown with
    | error error => exact Course.sends_pure _
    | ok files => exact Course.sends_pure _

/-- A name without a password is not sent. -/
theorem ActionInputs.course_sends {inputs : ActionInputs}
    (asked : ¬ (inputs.username ≠ "" ∧ inputs.password = "") →
      (inquire {} inputs.credentials net).Sends allowed) :
    (inputs.course summaryFile files net).Sends allowed := by
  unfold course
  split
  next => exact (Course.sends_write _).bind fun _ => Course.sends_pure _
  next given =>
    refine (Course.sends_write _).bind fun _ => ?_
    cases inputs.threshold? with
    | none => exact (Course.sends_write _).bind fun _ => Course.sends_pure _
    | some threshold =>
      refine ((inputs.probe threshold).course_sends (asked given)).bind
        fun (outcome, files, after) => ?_
      cases outcome with
      | ok => exact Course.sends_pure _
      | error error => exact (Course.sends_write _).bind fun _ => Course.sends_pure _

end Steps

section Records

variable {summaryFile : Option String} {files : Files} {net : Network}

def Inquiry.record (inquiry : Inquiry) : Record (Outcome Quota × Network) :=
  ⟨(inquiry.outcome, inquiry.network), inquiry.log, inquiry.calls.map (·.request)⟩

def Probe.record (run : Probe) : Record (Except ProbeError Unit × Files × Network) :=
  ⟨(run.outcome, run.files, run.network), run.log, run.calls.map (·.request)⟩

def ActionRun.record (run : ActionRun) : Record (Nat × Files × Network) :=
  ⟨(run.exitCode, run.files, run.network), run.log, run.calls.map (·.request)⟩

theorem inquire_record? (access : Access) (credentials : Credentials) (net : Network) :
    (inquire access credentials net).record? =
      (fetchQuota access credentials net).map Inquiry.record := by
  -- Each request that is sent is the one that its call tells of.
  simp only [inquire, fetchQuota, Course.record?_bind, Course.record?_write, Course.record?_send,
    Option.bind_some]
  cases hf : fetchToken access credentials net with
  | none => rfl
  | some first =>
    have request : first.call.request = tokenRequest access.urls credentials := by
      rw [fetchToken_call hf]
    cases ho : first.outcome with
    | failed failure => simp [ho, Inquiry.record, request]
    | broken breakdown => simp [ho, Inquiry.record, request]
    | done token =>
      cases hs : fetchLimits access token first.network with
      | none => simp [ho, hs, Course.record?_bind]
      | some second =>
        have request' : second.call.request = limitsRequest access.urls token := by
          rw [fetchLimits_call hs]
        cases hq : second.outcome <;>
          simp [ho, hs, hq, Course.record?_bind, Inquiry.record, request, request']

theorem ProbeInputs.course_record? (inputs : ProbeInputs) :
    (inputs.course summaryFile files net).record? =
      (probe inputs summaryFile files net).map Probe.record := by
  simp only [course, probe, Course.record?_bind, Course.record?_write, Option.bind_some,
    inquire_record?]
  cases fetchQuota {} inputs.credentials net with
  | none => rfl
  | some inquiry =>
    cases ho : inquiry.outcome with
    | failed failure => simp [Inquiry.record, ho, publish, Probe.record]
    | broken breakdown => simp [Inquiry.record, ho, publish, Probe.record]
    | done quota =>
      cases hw : writeSummary files summaryFile (inputs.report quota).markdown <;>
        simp [Inquiry.record, ho, hw, publish, Probe.record, Course.record?_bind]

theorem ActionInputs.course_record? (inputs : ActionInputs) :
    (inputs.course summaryFile files net).record? =
      (runAction inputs summaryFile files net).map ActionRun.record := by
  unfold course runAction
  split
  next => rfl
  next =>
    simp only [Course.record?_bind, Course.record?_write, Option.bind_some]
    cases inputs.threshold? with
    | none => simp [Course.record?_bind, ActionRun.record]
    | some threshold =>
      simp only [Course.record?_bind, ProbeInputs.course_record?, probe]
      cases PullQuota.probe ⟨inputs.username, inputs.password, threshold⟩ summaryFile files net with
      | none => rfl
      | some run =>
        cases ho : run.outcome <;>
          simp [Probe.record, ho, Course.record?_bind, finish, ActionRun.record]

end Records

end PullQuota
