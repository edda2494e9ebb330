import PullQuota.Api
import PullQuota.Proofs.Counting
import PullQuota.Proofs.Inquiries

/-!
Which questions for a quota reach the registry, and what the others are answered.
-/

namespace PullQuota

/-- The text of an id. -/
def ReadsId (id : String) (n : Nat) : Prop :=
  Writes id n ∧ 1 ≤ n ∧ n ≤ Number.maxCount

/-- An environment behind a socket or a pipe of this host, or its own cluster. -/
def Endpoint.Local (endpoint : Endpoint) : Prop :=
  "unix://".toList <+: endpoint.url.toList ∨ "npipe://".toList <+: endpoint.url.toList ∨
    endpoint.environment = .kubernetesLocal

theorem Environment.name_eq_kubernetesLocal_iff {environment : Environment} :
    environment.name = Environment.kubernetesLocal.name ↔ environment = .kubernetesLocal := by
  cases environment <;> decide

theorem Endpoint.isLocal_iff {endpoint : Endpoint} : endpoint.isLocal = true ↔ endpoint.Local := by
  simp [isLocal, site, Site.isLocal, Local, Environment.name_eq_kubernetesLocal_iff, or_assoc]

/-- A store that answers every question with an outcome. -/
def Store.Answers (store : Store) : Prop :=
  ∀ id message, store.endpoint id ≠ .broken message

theorem findEndpoint_ne_broken (endpoints : List Endpoint) (id : Rat) (message : String) :
    findEndpoint endpoints id ≠ .broken message := by
  unfold findEndpoint
  split <;> simp

theorem Store.ofDocument_answers (document : Document) : (Store.ofDocument document).Answers :=
  findEndpoint_ne_broken document.endpoints

theorem Store.ofFile_answers (files : Files) (path : String) :
    (Store.ofFile files path).Answers := by
  intro id message
  unfold ofFile
  dsimp only
  split
  next => simp
  next document _ => exact findEndpoint_ne_broken document.endpoints id message

section Steps

variable {store : Store} {access : Access} {id : String} {net : Network} {n : Nat}

theorem resolveStatus_of_bad_id (bad : ¬ ∃ n, ReadsId id n) :
    resolveStatus store access id net = some (.locally net (.refused (.badId id))) := by
  unfold resolveStatus
  split
  next => rfl
  next => rfl
  next n hne hp =>
    obtain ⟨writes, le⟩ := parseCount_eq_some_iff.mp hp
    exact absurd ⟨n, writes, Nat.one_le_iff_ne_zero.mpr hne, le⟩ bad

theorem resolveStatus_of_id (hid : ReadsId id n) :
    resolveStatus store access id net =
      match store.endpoint n with
      | .unknown reason => some (.locally net (.refused (.unknownEndpoint reason)))
      | .failed reason => some (.locally net (.refused (.endpointUnavailable reason)))
      | .broken message => some (.locally net (.broken (.store message)))
      | .found endpoint =>
        if endpoint.isLocal then
          match store.credentials with
          | .error reason => some (.locally net (.refused (.credentialsUnavailable reason)))
          | .ok credentials => askRegistry access credentials net
        else some (.locally net (.refused (.remoteEndpoint endpoint))) := by
  obtain ⟨writes, pos, le⟩ := hid
  unfold resolveStatus
  rw [parseCount_eq_some_iff.mpr ⟨writes, le⟩]
  cases n with
  | zero => omega
  | succ n => rfl

theorem resolveStatus_of_remote {endpoint : Endpoint} (hid : ReadsId id n)
    (hl : store.endpoint n = .found endpoint) (remote : ¬ endpoint.Local) :
    resolveStatus store access id net =
      some (.locally net (.refused (.remoteEndpoint endpoint))) := by
  rw [resolveStatus_of_id hid, hl]
  exact if_neg (mt Endpoint.isLocal_iff.mp remote)

theorem resolveStatus_of_local {endpoint : Endpoint} (hid : ReadsId id n)
    (hl : store.endpoint n = .found endpoint) (loc : endpoint.Local) :
    resolveStatus store access id net =
      match store.credentials with
      | .error reason => some (.locally net (.refused (.credentialsUnavailable reason)))
      | .ok credentials => askRegistry access credentials net := by
  rw [resolveStatus_of_id hid, hl]
  exact if_pos (Endpoint.isLocal_iff.mpr loc)

end Steps

namespace Resolution

variable {outcome : Outcome Quota}

theorem ofOutcome_eq_quota_iff {quota : Quota} :
    ofOutcome outcome = .quota quota ↔ outcome = .done quota := by
  cases outcome <;> simp [ofOutcome]

theorem ofOutcome_eq_refused_iff {refusal : Refusal} :
    ofOutcome outcome = .refused refusal ↔
      ∃ failure, outcome = .failed failure ∧ refusal = .registry failure := by
  cases outcome <;> simp [ofOutcome, eq_comm]

end Resolution

/-- How a question ends: at the first check that fails, or with what the registry answers. -/
inductive Resolved.Ends (store : Store) (access : Access) (id : String) (net : Network) :
    Resolved → Prop
  | badId (bad : ¬ ∃ n, ReadsId id n) :
      Ends store access id net (.locally net (.refused (.badId id)))
  | unknown (n : Nat) (reason : String) (hid : ReadsId id n)
      (unknown : store.endpoint n = .unknown reason) :
      Ends store access id net (.locally net (.refused (.unknownEndpoint reason)))
  | unavailable (n : Nat) (reason : String) (hid : ReadsId id n)
      (failed : store.endpoint n = .failed reason) :
      Ends store access id net (.locally net (.refused (.endpointUnavailable reason)))
  | broken (n : Nat) (message : String) (hid : ReadsId id n)
      (broken : store.endpoint n = .broken message) :
      Ends store access id net (.locally net (.broken (.store message)))
  | remote (n : Nat) (endpoint : Endpoint) (hid : ReadsId id n)
      (found : store.endpoint n = .found endpoint) (remote : ¬ endpoint.Local) :
      Ends store access id net (.locally net (.refused (.remoteEndpoint endpoint)))
  | noAccount (n : Nat) (endpoint : Endpoint) (reason : String) (hid : ReadsId id n)
      (found : store.endpoint n = .found endpoint) (loc : endpoint.Local)
      (none : store.credentials = .error reason) :
      Ends store access id net (.locally net (.refused (.credentialsUnavailable reason)))
  | asked (n : Nat) (endpoint : Endpoint) (credentials : Credentials) (inquiry : Inquiry)
      (hid : ReadsId id n) (found : store.endpoint n = .found endpoint) (loc : endpoint.Local)
      (account : store.credentials = .ok credentials)
      (asked : fetchQuota access credentials net = some inquiry) :
      Ends store access id net
        ⟨.ofOutcome inquiry.outcome, inquiry.calls, inquiry.log, inquiry.network⟩

theorem resolveStatus_ends {store : Store} {access : Access} {id : String} {net : Network}
    {resolved : Resolved} (h : resolveStatus store access id net = some resolved) :
    resolved.Ends store access id net := by
  by_cases hid : ∃ n, ReadsId id n
  · obtain ⟨n, hid⟩ := hid
    cases hl : store.endpoint n with
    | unknown reason =>
      rw [resolveStatus_of_id hid, hl] at h
      cases Option.some.inj h
      exact .unknown n reason hid hl
    | failed reason =>
      rw [resolveStatus_of_id hid, hl] at h
      cases Option.some.inj h
      exact .unavailable n reason hid hl
    | broken message =>
      rw [resolveStatus_of_id hid, hl] at h
      cases Option.some.inj h
      exact .broken n message hid hl
    | found endpoint =>
      by_cases loc : endpoint.Local
      · rw [resolveStatus_of_local hid hl loc] at h
        cases account : store.credentials with
        | error reason =>
          rw [account] at h
          cases Option.some.inj h
          exact .noAccount n endpoint reason hid hl loc account
        | ok credentials =>
          rw [account] at h
          obtain ⟨inquiry, asked, rfl⟩ := Option.map_eq_some_iff.mp h
          exact .asked n endpoint credentials inquiry hid hl loc account asked
      · rw [resolveStatus_of_remote hid hl loc] at h
        cases Option.some.inj h
        exact .remote n endpoint hid hl loc
  · rw [resolveStatus_of_bad_id hid] at h
    cases Option.some.inj h
    exact .badId hid

section Ended

variable {store : Store} {access : Access} {id : String} {net : Network} {resolved : Resolved}

/-- A question is answered on the spot, and then not with a failure of the registry, or the registry
is asked with the account of the store. -/
theorem resolveStatus_eq_some (h : resolveStatus store access id net = some resolved) :
    (∃ resolution, resolved = .locally net resolution ∧
      ∀ failure, resolution ≠ .refused (.registry failure)) ∨
    ∃ credentials, store.credentials = .ok credentials ∧
      askRegistry access credentials net = some resolved := by
  cases resolveStatus_ends h with
  | asked n endpoint credentials inquiry hid found loc account asked =>
    exact Or.inr ⟨credentials, account, Option.map_eq_some_iff.mpr ⟨inquiry, asked, rfl⟩⟩
  | _ => exact Or.inl ⟨_, rfl, by simp⟩

theorem resolveStatus_registry {resolved : Resolved} {failure : Failure}
    (h : resolveStatus store access id net = some resolved)
    (refused : resolved.resolution = .refused (.registry failure)) :
    ∃ credentials inquiry, store.credentials = .ok credentials ∧
      fetchQuota access credentials net = some inquiry ∧ inquiry.outcome = .failed failure ∧
      resolved.calls = inquiry.calls := by
  rcases resolveStatus_eq_some h with ⟨resolution, rfl, other⟩ | ⟨credentials, account, h⟩
  · exact absurd refused (other failure)
  · obtain ⟨inquiry, asked, rfl⟩ := Option.map_eq_some_iff.mp h
    obtain ⟨_, failed, registry⟩ := Resolution.ofOutcome_eq_refused_iff.mp refused
    cases registry
    exact ⟨credentials, inquiry, account, asked, failed, rfl⟩

end Ended

namespace Resolved

/-- A refusal of a kind that no request goes out for. -/
def Refuses (resolved : Resolved) (net : Network) (kind : RefusalKind) : Prop :=
  (∃ refusal, resolved.resolution = .refused refusal ∧ refusal.kind = kind) ∧
    resolved.calls = [] ∧ resolved.network = net

/-- The end of an inquiry, told with its own kind of failure. -/
structure Reports (resolved : Resolved) (inquiry : Inquiry) : Prop where
  calls : resolved.calls = inquiry.calls
  network : resolved.network = inquiry.network
  done : ∀ quota, inquiry.outcome = .done quota → resolved.resolution = .quota quota
  failed : ∀ failure, inquiry.outcome = .failed failure →
    ∃ refusal, resolved.resolution = .refused refusal ∧ refusal.kind = .registry failure.kind
  broken : ∀ breakdown, inquiry.outcome = .broken breakdown →
    resolved.resolution = .broken breakdown

/-- The last request failed before its deadline with a fault that has no text. -/
def Untold (resolved : Resolved) (timeout : Rat) : Prop :=
  ∃ call ∈ resolved.calls.getLast?, call.Untold timeout resolved.network.clock

/-- The local checks of an id pass: there is a local environment of this id, and an account. -/
def Passes (store : Store) (id : String) (credentials : Credentials) : Prop :=
  ∃ n endpoint, ReadsId id n ∧ store.endpoint n = .found endpoint ∧ endpoint.Local ∧
    store.credentials = .ok credentials

variable {resolved : Resolved} {store : Store} {access : Access} {id : String} {net : Network}

theorem refuses_locally (net : Network) (refusal : Refusal) :
    (locally net (.refused refusal)).Refuses net refusal.kind :=
  ⟨⟨refusal, rfl, rfl⟩, rfl, rfl⟩

theorem Refuses.not_untold {kind : RefusalKind} (h : resolved.Refuses net kind) (timeout : Rat) :
    ¬ resolved.Untold timeout := by
  simp [Untold, h.2.1]

theorem Reports.resolution_eq_broken_iff {inquiry : Inquiry} {breakdown : Breakdown}
    (h : resolved.Reports inquiry) :
    resolved.resolution = .broken breakdown ↔ inquiry.outcome = .broken breakdown := by
  cases ho : inquiry.outcome with
  | done quota => simp [h.done quota ho]
  | failed failure =>
    obtain ⟨refusal, hr, _⟩ := h.failed failure ho
    simp [hr]
  | broken breakdown' => simp [h.broken breakdown' ho]

theorem reports_of_ask {credentials : Credentials}
    (h : askRegistry access credentials net = some resolved) :
    ∃ inquiry, fetchQuota access credentials net = some inquiry ∧ resolved.Reports inquiry := by
  obtain ⟨inquiry, hi, rfl⟩ := Option.map_eq_some_iff.mp h
  refine ⟨inquiry, hi, rfl, rfl, ?_, ?_, ?_⟩
  · intro quota ho
    exact Resolution.ofOutcome_eq_quota_iff.mpr ho
  · intro failure ho
    exact ⟨.registry failure, Resolution.ofOutcome_eq_refused_iff.mpr ⟨failure, ho, rfl⟩, rfl⟩
  · intro breakdown ho
    simp [Resolution.ofOutcome, ho]

/-- A question is refused by one of the checks, or all of them pass and the registry is asked. -/
theorem refuses_or_reports (answers : store.Answers)
    (h : resolveStatus store access id net = some resolved) :
    (∃ kind, resolved.Refuses net kind) ∨
      ∃ credentials inquiry, Passes store id credentials ∧
        fetchQuota access credentials net = some inquiry ∧ resolved.Reports inquiry := by
  cases resolveStatus_ends h with
  | broken n message hid broken => exact absurd broken (answers n message)
  | asked n endpoint credentials inquiry hid found loc account asked =>
    obtain ⟨inquiry, asked, reports⟩ :=
      reports_of_ask (Option.map_eq_some_iff.mpr ⟨inquiry, asked, rfl⟩)
    exact Or.inr ⟨credentials, inquiry, ⟨n, endpoint, hid, found, loc, account⟩, asked, reports⟩
  | _ => exact Or.inl ⟨_, refuses_locally net _⟩

/-- Calls are made just if all checks pass. -/
theorem calls_ne_nil_iff (h : resolveStatus store access id net = some resolved) :
    resolved.calls ≠ [] ↔ ∃ credentials, Passes store id credentials := by
  constructor
  · intro called
    cases resolveStatus_ends h with
    | asked n endpoint credentials inquiry hid found loc account asked =>
      exact ⟨credentials, n, endpoint, hid, found, loc, account⟩
    | _ => exact absurd rfl called
  · rintro ⟨credentials, n, endpoint, hid, found, loc, account⟩
    rw [resolveStatus_of_local hid found loc, account] at h
    obtain ⟨inquiry, asked, reports⟩ := reports_of_ask h
    obtain ⟨first, rest, goes⟩ := fetchQuota_goes asked
    simp [reports.calls, goes.calls]

/-- The first check that fails decides what a question comes to; the registry is asked when none
does, and with the account of the store. -/
structure Decided (resolved : Resolved) (store : Store) (access : Access) (id : String)
    (net : Network) : Prop where
  badId : (¬ ∃ n, ReadsId id n) → resolved.Refuses net .invalidInput
  unknown : ∀ n reason, ReadsId id n → store.endpoint n = .unknown reason →
    resolved.Refuses net .notFound
  unavailable : ∀ n reason, ReadsId id n → store.endpoint n = .failed reason →
    resolved.Refuses net .storage
  remote : ∀ n endpoint, ReadsId id n → store.endpoint n = .found endpoint →
    ¬ endpoint.Local → resolved.Refuses net .unsupportedEndpointType
  noAccount : ∀ n endpoint reason, ReadsId id n → store.endpoint n = .found endpoint →
    endpoint.Local → store.credentials = .error reason → resolved.Refuses net .storage
  asks : ∀ credentials, Passes store id credentials →
    ∃ inquiry, fetchQuota access credentials net = some inquiry ∧ resolved.Reports inquiry
  passed : resolved.calls ≠ [] → ∃ credentials, Passes store id credentials
  breaksDown : (∃ breakdown, resolved.resolution = .broken breakdown) ↔
    resolved.Untold access.timeout

theorem breaksDown_iff (answers : store.Answers)
    (h : resolveStatus store access id net = some resolved) :
    (∃ breakdown, resolved.resolution = .broken breakdown) ↔ resolved.Untold access.timeout := by
  rcases refuses_or_reports answers h with ⟨kind, refuses⟩ |
    ⟨credentials, inquiry, _, hi, reports⟩
  · have untold := refuses.not_untold access.timeout
    obtain ⟨⟨refusal, hr, _⟩, _⟩ := refuses
    simp [hr, untold]
  · have same : resolved.Untold access.timeout ↔ inquiry.Untold access.timeout := by
      unfold Untold Inquiry.Untold
      rw [reports.calls, reports.network]
    simp [same, reports.resolution_eq_broken_iff, fetchQuota_broken_iff hi]

theorem decided_of_resolveStatus (answers : store.Answers)
    (h : resolveStatus store access id net = some resolved) :
    resolved.Decided store access id net where
  badId bad := by
    rw [resolveStatus_of_bad_id bad] at h
    cases Option.some.inj h
    exact refuses_locally net _
  unknown n reason hid hl := by
    rw [resolveStatus_of_id hid, hl] at h
    cases Option.some.inj h
    exact refuses_locally net _
  unavailable n reason hid hl := by
    rw [resolveStatus_of_id hid, hl] at h
    cases Option.some.inj h
    exact refuses_locally net _
  remote n endpoint hid hl remote := by
    rw [resolveStatus_of_remote hid hl remote] at h
    cases Option.some.inj h
    exact refuses_locally net _
  noAccount n endpoint reason hid hl loc account := by
    rw [resolveStatus_of_local hid hl loc, account] at h
    cases Option.some.inj h
    exact refuses_locally net _
  asks credentials passes := by
    obtain ⟨n, endpoint, hid, hl, loc, account⟩ := passes
    rw [resolveStatus_of_local hid hl loc, account] at h
    exact reports_of_ask h
  passed := (calls_ne_nil_iff h).mp
  breaksDown := breaksDown_iff answers h

end Resolved

theorem RefusalKind.httpStatus_cases (kind : RefusalKind) :
    kind.httpStatus = 500 ∨ kind.httpStatus = 400 ∨ kind.httpStatus = 404 := by
  cases kind <;> simp [httpStatus]

/-- An answer to a question for a quota: its status tells the kind of a refusal. -/
structure Served.Tells (served : Served) (resolved : Resolved) : Prop where
  calls : served.calls = resolved.calls
  network : served.network = resolved.network
  quota : ∀ quota, resolved.resolution = .quota quota → served.answer.status = 200
  badRequest : ∀ refusal, resolved.resolution = .refused refusal →
    refusal.kind = .invalidInput ∨ refusal.kind = .unsupportedEndpointType →
    served.answer.status = 400
  notFound : ∀ refusal, resolved.resolution = .refused refusal → refusal.kind = .notFound →
    served.answer.status = 404
  failed : ∀ refusal, resolved.resolution = .refused refusal → refusal.kind ≠ .invalidInput →
    refusal.kind ≠ .unsupportedEndpointType → refusal.kind ≠ .notFound →
    served.answer.status = 500
  broken : ∀ breakdown, resolved.resolution = .broken breakdown → served.answer.status = 500

theorem Resolved.serve_tells (resolved : Resolved) (id : String) :
    (resolved.serve id).Tells resolved := by
  cases hr : resolved.resolution with
  | quota quota => constructor <;> simp [Resolved.serve, hr, Answer.json]
  | broken breakdown => constructor <;> simp [Resolved.serve, hr, Answer.text]
  | refused refusal =>
    cases hk : refusal.kind <;> constructor <;>
      simp [Resolved.serve, hr, hk, Answer.json, RefusalKind.httpStatus]

theorem Served.Tells.withoutBody {served : Served} {resolved : Resolved}
    (h : served.Tells resolved) :
    { served with answer := served.answer.withoutBody }.Tells resolved :=
  ⟨h.calls, h.network, h.quota, h.badRequest, h.notFound, h.failed, h.broken⟩

section Serve

variable {store : Store} {access : Access} {id : String} {net : Network} {resolved : Resolved}

theorem serve_of_resolveStatus {request : ApiRequest}
    (h : resolveStatus store access id net = some resolved)
    (route : Route.ofPath (Route.pathOf request.url) = .status id)
    (method : request.method = "GET" ∨ request.method = "HEAD") :
    ∃ served, serve store access request net = some served ∧ served.Tells resolved := by
  have routed : serveRoute store access (.status id) net = some (resolved.serve id) := by
    simp [serveRoute, h]
  have tells := resolved.serve_tells id
  rcases method with method | method
  · exact ⟨_, by simp [serve, route, routed, method], tells⟩
  · exact ⟨_, by simp [serve, route, routed, method], tells.withoutBody⟩

/-- The checks of a question come in their order before the registry is asked, and the status of the
answer tells what came of them. -/
theorem resolveStatus_decided (answers : store.Answers)
    (h : resolveStatus store access id net = some resolved) :
    resolved.Decided store access id net ∧
    ∀ request : ApiRequest, request.method = "GET" ∨ request.method = "HEAD" →
      Route.ofPath (Route.pathOf request.url) = .status id →
      ∃ served, serve store access request net = some served ∧ served.Tells resolved :=
  ⟨Resolved.decided_of_resolveStatus answers h,
    fun _ method route => serve_of_resolveStatus h route method⟩

end Serve

/-- The store of one local environment, without an account. -/
def Store.oneLocal : Store :=
  .ofDocument ⟨[⟨1, "local", "unix:///var/run/docker.sock", .docker, []⟩], .anonymous⟩

theorem resolveStatus_decided_obliging : ∃ resolved,
    resolveStatus .oneLocal {} "1" .obliging = some resolved ∧
    resolved.resolution = .quota ⟨100, 76⟩ ∧
    resolved.Decided .oneLocal {} "1" .obliging ∧
    ∃ served, serve .oneLocal {} ⟨"GET", "http://localhost/api/endpoints/1/dockerhub/status"⟩
      .obliging = some served ∧ served.Tells resolved := by
  have ended : (resolveStatus .oneLocal {} "1" .obliging).map (·.resolution) =
      some (.quota ⟨100, 76⟩) := by
    decide +kernel
  obtain ⟨resolved, h, hr⟩ := Option.map_eq_some_iff.mp ended
  obtain ⟨decided, served⟩ := resolveStatus_decided (Store.ofDocument_answers _) h
  exact ⟨resolved, h, hr, decided, served _ (Or.inl rfl) (by decide +kernel)⟩

/-- With a token request that is rejected with a value that has no text, a question comes neither to
a quota nor to a refusal. -/
theorem resolveStatus_mute_undecided : ∃ resolved,
    resolveStatus .oneLocal {} "1" .mute = some resolved ∧
    (∀ quota, resolved.resolution ≠ .quota quota) ∧
    ∀ refusal, resolved.resolution ≠ .refused refusal := by
  have ended : (resolveStatus .oneLocal {} "1" .mute).map (·.resolution) =
      some (.broken .untold) := by
    decide +kernel
  obtain ⟨resolved, h, hr⟩ := Option.map_eq_some_iff.mp ended
  exact ⟨resolved, h, by simp [hr], by simp [hr]⟩

end PullQuota
