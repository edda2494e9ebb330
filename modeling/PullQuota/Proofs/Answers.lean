import PullQuota.Proofs.Accounts
import PullQuota.Proofs.Admission
import PullQuota.Proofs.Rereading

/-!
What the answers to questions for a quota hold: both counts, or message and details of a refusal, in
a text that is read back as it was meant.
-/

namespace PullQuota

/-- A JSON answer that reads as an object with these members. -/
structure Answer.Holds (answer : Answer) (members : List (String × Json)) : Prop where
  contentType : answer.contentType = "application/json"
  body : Json.parse? answer.body = some (.object members)

theorem Answer.json_holds {status : Nat} {members : List (String × Json)}
    (rereads : (Json.object members).Rereads) : (json status members).Holds members :=
  ⟨rfl, Json.parse?_write rereads⟩

/-- The members of an answer with a quota. -/
def quotaMembers (limit remaining : Nat) : List (String × Json) :=
  [("remaining", .number (.finite remaining)), ("limit", .number (.finite limit))]

def Refusal.members (refusal : Refusal) : List (String × Json) :=
  [("message", .string refusal.message), ("details", .string refusal.details)]

theorem quotaMembers_rereads {limit remaining : Nat} (hl : limit ≤ Number.maxCount)
    (hr : remaining ≤ Number.maxCount) : (Json.object (quotaMembers limit remaining)).Rereads := by
  refine .object _ (by simp [quotaMembers]) fun member mem => ?_
  rcases List.mem_cons.mp mem with rfl | mem
  · exact .number _ (Number.rereads_natCast hr)
  · cases List.mem_singleton.mp mem
    exact .number _ (Number.rereads_natCast hl)

theorem Refusal.members_rereads (refusal : Refusal) : (Json.object refusal.members).Rereads := by
  refine .object _ (by simp [members]) fun member mem => ?_
  rcases List.mem_cons.mp mem with rfl | mem
  · exact .string _
  · cases List.mem_singleton.mp mem
    exact .string _

/-- How an answer presents what a question came to. A quota has both counts, as they are in the
second answer of the registry; all else has message and details, unless it broke down because there
is no text to tell of. -/
structure Served.Presents (served : Served) (resolved : Resolved) (timeout : Rat) : Prop where
  json : served.answer.contentType = "application/json" ↔ ¬ resolved.Untold timeout
  quota : served.answer.status = 200 →
    ∃ first second response limit remaining, served.calls = [first, second] ∧
      second.response? = some response ∧ response.status = 200 ∧
      response.headers.Carries limitField limit ∧
      response.headers.Carries remainingField remaining ∧
      resolved.resolution = .quota ⟨limit, remaining⟩ ∧
      served.answer.Holds (quotaMembers limit remaining)
  refusal : served.answer.status ≠ 200 → ¬ resolved.Untold timeout →
    ∃ refusal, resolved.resolution = .refused refusal ∧ served.answer.Holds refusal.members
  untold : resolved.Untold timeout → served.answer = .text 500 "Internal Server Error"

section Presents

variable {store : Store} {access : Access} {id : String} {net : Network} {resolved : Resolved}

theorem resolveStatus_quota {quota : Quota} (h : resolveStatus store access id net = some resolved)
    (done : resolved.resolution = .quota quota) :
    ∃ credentials inquiry, fetchQuota access credentials net = some inquiry ∧
      inquiry.outcome = .done quota ∧ resolved.calls = inquiry.calls := by
  cases resolveStatus_ends h with
  | asked n endpoint credentials inquiry hid found loc account asked =>
    exact ⟨credentials, inquiry, asked, Resolution.ofOutcome_eq_quota_iff.mp done, rfl⟩
  | _ => cases done

theorem Resolved.presented (answers : store.Answers)
    (h : resolveStatus store access id net = some resolved) :
    (resolved.serve id).Presents resolved access.timeout := by
  have breaks := Resolved.breaksDown_iff answers h
  cases hr : resolved.resolution with
  | quota quota =>
    have told : ¬ resolved.Untold access.timeout := by simp [← breaks, hr]
    obtain ⟨credentials, inquiry, asked, done, calls⟩ := resolveStatus_quota h hr
    obtain ⟨first, second, response, made, _, answered, status, read⟩ := fetchQuota_done asked done
    obtain ⟨limit, remaining, hl, hr', rfl⟩ := carries_of_readQuota read
    have holds : (resolved.serve id).answer.Holds (quotaMembers limit remaining) := by
      simp only [serve, hr]
      exact Answer.json_holds (quotaMembers_rereads hl.2 hr'.2)
    have ok : (resolved.serve id).answer.status = 200 := by simp [serve, hr, Answer.json]
    refine ⟨iff_of_true holds.contentType told, fun _ => ?_, fun other => absurd ok other,
      fun untold => absurd untold told⟩
    have same : (resolved.serve id).calls = [first, second] := by simp [serve, hr, calls, made]
    exact ⟨first, second, response, limit, remaining, same, answered, status, hl, hr', hr, holds⟩
  | refused refusal =>
    have told : ¬ resolved.Untold access.timeout := by simp [← breaks, hr]
    have holds : (resolved.serve id).answer.Holds refusal.members := by
      simp only [serve, hr]
      exact Answer.json_holds refusal.members_rereads
    have other : (resolved.serve id).answer.status ≠ 200 := by
      have status : (resolved.serve id).answer.status = refusal.kind.httpStatus := by
        simp [serve, hr, Answer.json]
      have cases := refusal.kind.httpStatus_cases
      omega
    exact ⟨iff_of_true holds.contentType told, fun ok => absurd ok other,
      fun _ _ => ⟨refusal, hr, holds⟩, fun untold => absurd untold told⟩
  | broken breakdown =>
    have untold : resolved.Untold access.timeout := breaks.mp ⟨breakdown, hr⟩
    have plain : (resolved.serve id).answer = .text 500 "Internal Server Error" := by
      simp [serve, hr]
    refine ⟨iff_of_false ?_ (not_not.mpr untold), fun ok => ?_, fun _ told => absurd untold told,
      fun _ => plain⟩
    · rw [plain]
      decide
    · rw [plain] at ok
      cases ok

/-- A question for a quota is presented as what it came to, whatever texts are in it. -/
theorem serve_presents {request : ApiRequest} (answers : store.Answers)
    (method : request.method = "GET")
    (route : Route.ofPath (Route.pathOf request.url) = .status id) :
    Option.Rel (fun served resolved => served.Presents resolved access.timeout)
      (serve store access request net) (resolveStatus store access id net) := by
  have served : serve store access request net =
      (resolveStatus store access id net).map (·.serve id) := by
    simp [serve, method, route, serveRoute]
  rw [served]
  cases h : resolveStatus store access id net with
  | none => exact .none
  | some resolved => exact .some (Resolved.presented answers h)

end Presents

theorem serve_presents_obliging : ∃ served resolved,
    serve .oneLocal {} ⟨"GET", "http://localhost/api/endpoints/1/dockerhub/status"⟩ .obliging =
      some served ∧
    resolveStatus .oneLocal {} "1" .obliging = some resolved ∧
    served.Presents resolved ({} : Access).timeout ∧ served.answer.status = 200 ∧
    served.answer.body = "\x7b\"remaining\":76,\"limit\":100\x7d" := by
  have ended : (serve .oneLocal {} ⟨"GET", "http://localhost/api/endpoints/1/dockerhub/status"⟩
      .obliging).map (·.answer) =
      some ⟨200, "application/json", "\x7b\"remaining\":76,\"limit\":100\x7d"⟩ := by
    decide +kernel
  obtain ⟨served, h, answer⟩ := Option.map_eq_some_iff.mp ended
  have presents := @serve_presents .oneLocal {} "1" .obliging
    ⟨"GET", "http://localhost/api/endpoints/1/dockerhub/status"⟩ (Store.ofDocument_answers _) rfl
    (by decide +kernel)
  rw [h] at presents
  cases hr : resolveStatus .oneLocal {} "1" .obliging with
  | none => rw [hr] at presents; cases presents
  | some resolved =>
    rw [hr] at presents
    cases presents with
    | some presents =>
      exact ⟨served, resolved, h, rfl, presents, congrArg Answer.status answer,
        congrArg Answer.body answer⟩

/-- A fault without a text is answered with plain text. -/
theorem serve_mute_plain : ∃ served,
    serve .oneLocal {} ⟨"GET", "http://localhost/api/endpoints/1/dockerhub/status"⟩ .mute =
      some served ∧
    served.answer.contentType ≠ "application/json" ∧ Json.parse? served.answer.body = none := by
  have ended : (serve .oneLocal {} ⟨"GET", "http://localhost/api/endpoints/1/dockerhub/status"⟩
      .mute).map (·.answer) = some (.text 500 "Internal Server Error") := by
    decide +kernel
  obtain ⟨served, h, answer⟩ := Option.map_eq_some_iff.mp ended
  refine ⟨served, h, ?_⟩
  rw [answer]
  decide +kernel

end PullQuota
