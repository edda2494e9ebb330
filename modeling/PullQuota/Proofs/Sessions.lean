import PullQuota.Proofs.Admission
import PullQuota.Proofs.Replies

/-!
Sessions of the service: a request that asks no one leaves no trace, and no two requests share what
they were answered.
-/

namespace PullQuota

/-- A request that goes on to the registry: it is for the quota of an environment, and all local
checks pass. -/
def ApiRequest.Asks (request : ApiRequest) (store : Store) : Prop :=
  (request.method = "GET" ∨ request.method = "HEAD") ∧
    ∃ id credentials, Route.ofPath (Route.pathOf request.url) = .status id ∧
      Resolved.Passes store id credentials

/-- How a request is served: without a call, and the network stays what it is, or with an
inquiry. -/
inductive Served.Ends (served : Served) (store : Store) (access : Access) (request : ApiRequest)
    (net : Network) : Prop
  | locally (unasked : ¬ request.Asks store) (calls : served.calls = [])
      (network : served.network = net)
  | asked (credentials : Credentials) (inquiry : Inquiry) (asks : request.Asks store)
      (asked : fetchQuota access credentials net = some inquiry)
      (calls : served.calls = inquiry.calls) (network : served.network = inquiry.network)

section Serve

variable {store : Store} {access : Access} {request : ApiRequest} {net : Network}
  {served : Served}

theorem serveRoute_ends {served : Served}
    (method : request.method = "GET" ∨ request.method = "HEAD")
    (h : serveRoute store access (Route.ofPath (Route.pathOf request.url)) net = some served) :
    served.Ends store access request net := by
  cases route : Route.ofPath (Route.pathOf request.url) with
  | health =>
    rw [route] at h
    cases Option.some.inj h
    exact .locally (by simp [ApiRequest.Asks, route]) rfl rfl
  | unknown =>
    rw [route] at h
    cases Option.some.inj h
    exact .locally (by simp [ApiRequest.Asks, route]) rfl rfl
  | status id =>
    rw [route] at h
    obtain ⟨resolved, hr, rfl⟩ := Option.map_eq_some_iff.mp h
    have tells := resolved.serve_tells id
    have asks : request.Asks store ↔ resolved.calls ≠ [] := by
      rw [Resolved.calls_ne_nil_iff hr]
      simp [ApiRequest.Asks, method, route]
    rcases resolveStatus_eq_some hr with ⟨resolution, rfl, _⟩ | ⟨credentials, _, hr⟩
    · exact .locally (by simp [asks, Resolved.locally]) tells.calls tells.network
    · obtain ⟨inquiry, asked, rfl⟩ := Option.map_eq_some_iff.mp hr
      obtain ⟨first, rest, goes⟩ := fetchQuota_goes asked
      exact .asked credentials inquiry (asks.mpr (by simp [goes.calls])) asked tells.calls
        tells.network

theorem Served.Ends.withoutBody (h : served.Ends store access request net) :
    { served with answer := served.answer.withoutBody }.Ends store access request net := by
  cases h with
  | locally unasked calls network => exact .locally unasked calls network
  | asked credentials inquiry asks asked calls network =>
    exact .asked credentials inquiry asks asked calls network

theorem serve_ends (h : serve store access request net = some served) :
    served.Ends store access request net := by
  unfold serve at h
  split at h
  next get => exact serveRoute_ends (Or.inl get) h
  next get =>
    split at h
    next head =>
      obtain ⟨full, routed, rfl⟩ := Option.map_eq_some_iff.mp h
      exact (serveRoute_ends (Or.inr head) routed).withoutBody
    next head =>
      cases Option.some.inj h
      exact .locally (by simp [ApiRequest.Asks, get, head]) rfl rfl

theorem serve_calls_eq_nil_iff (h : serve store access request net = some served) :
    served.calls = [] ↔ ¬ request.Asks store := by
  cases serve_ends h with
  | locally unasked calls network => exact iff_of_true calls unasked
  | asked credentials inquiry asks asked calls network =>
    obtain ⟨first, rest, goes⟩ := fetchQuota_goes asked
    exact iff_of_false (by simp [calls, goes.calls]) (not_not.mpr asks)

/-- A request without a call changes nothing for those after it. -/
theorem serve_network_of_no_call (h : serve store access request net = some served)
    (idle : served.calls = []) : served.network = net := by
  cases serve_ends h with
  | locally unasked calls network => exact network
  | asked credentials inquiry asks asked calls network =>
    exact absurd asks ((serve_calls_eq_nil_iff h).mp idle)

theorem fetchQuota_draws {credentials : Credentials} {inquiry : Inquiry}
    (h : fetchQuota access credentials net = some inquiry) :
    net.Draws inquiry.calls inquiry.network := by
  obtain ⟨first, hf, ⟨hc, hn, _⟩ | ⟨token, second, _, hs, hc, hn, _⟩⟩ := fetchQuota_eq_some h
  · rw [hc, hn]
    exact fetchToken_draws hf
  · rw [hc, hn]
    exact (fetchToken_draws hf).append (fetchLimits_draws hs)

theorem serve_draws (h : serve store access request net = some served) :
    net.Draws served.calls served.network := by
  cases serve_ends h with
  | locally unasked calls network =>
    rw [calls, network]
    exact Network.draws_nil rfl
  | asked credentials inquiry asks asked calls network =>
    rw [calls, network]
    exact fetchQuota_draws asked

end Serve

/-- The calls of a request after earlier ones: at most two, answered by the replies that come next,
and the second one with the token that the first one was given. -/
structure Served.DrawsAfter (served : Served) (access : Access) (net : Network)
    (earlier : List Call) : Prop where
  atMostTwo : served.calls.length ≤ 2
  given : ∀ (i : Nat) (call : Call), served.calls[i]? = some call →
    call.ending.Follows net.replies[earlier.length + i]?
  left : served.network.replies = net.replies.drop (earlier.length + served.calls.length)
  bearer : ∀ second ∈ served.calls.tail, ∃ first token, served.calls.head? = some first ∧
    first.Gives token ∧ second.request = limitsRequest access.urls token

theorem serve_drawsAfter {store : Store} {access : Access} {request : ApiRequest}
    {net start : Network} {served : Served} {earlier : List Call}
    (h : serve store access request net = some served)
    (used : net.replies = start.replies.drop earlier.length) :
    served.DrawsAfter access start earlier := by
  have draws := serve_draws h
  have given : ∀ (i : Nat) (call : Call), served.calls[i]? = some call →
      call.ending.Follows start.replies[earlier.length + i]? := by
    intro i call mem
    simpa [used] using draws.given i call mem
  have left : served.network.replies =
      start.replies.drop (earlier.length + served.calls.length) := by
    rw [draws.left, used, List.drop_drop]
  cases serve_ends h with
  | locally unasked calls network => exact ⟨by simp [calls], given, left, by simp [calls]⟩
  | asked credentials inquiry asks asked calls network =>
    obtain ⟨first, rest, goes⟩ := fetchQuota_goes asked
    have made := calls.trans goes.calls
    refine ⟨by simpa [made] using goes.atMostTwo, given, left, ?_⟩
    intro second mem
    rw [made] at mem
    obtain ⟨token, gives, request⟩ := goes.limitsRequest second mem
    exact ⟨first, token, by simp [made], gives, request⟩

/-- All calls of a part of a session. -/
def callsOf (answers : List (Option Served)) : List Call :=
  answers.flatMap fun answer => (answer.map (·.calls)).getD []

/-- Some requests without a call are left out of a session, each with its answer. -/
inductive Spares : List (SessionStep ApiRequest × Option Served) →
    List (SessionStep ApiRequest × Option Served) → Prop
  | nil : Spares [] []
  | keep (step : SessionStep ApiRequest × Option Served)
      {session kept : List (SessionStep ApiRequest × Option Served)}
      (rest : Spares session kept) : Spares (step :: session) (step :: kept)
  | drop (request : ApiRequest) (served : Served) (idle : served.calls = [])
      {session kept : List (SessionStep ApiRequest × Option Served)}
      (rest : Spares session kept) : Spares ((.act request, some served) :: session) kept

section Session

variable {store : Files → Store} {access : Access}

theorem serveSession_act {files : Files} {net : Network} {request : ApiRequest}
    {rest : List (SessionStep ApiRequest)} :
    serveSession store access files net (.act request :: rest) =
      match serve (store files) access request net with
      | none => []
      | some served => some served :: serveSession store access files served.network rest := by
  unfold serveSession
  rw [runSession]
  cases serve (store files) access request net <;> rfl

theorem serveSession_act_eq_cons {files : Files} {net : Network} {request : ApiRequest}
    {rest : List (SessionStep ApiRequest)} {answer : Option Served} {later : List (Option Served)}
    (h : serveSession store access files net (.act request :: rest) = answer :: later) :
    ∃ served, answer = some served ∧ serve (store files) access request net = some served ∧
      serveSession store access files served.network rest = later := by
  rw [serveSession_act] at h
  cases hs : serve (store files) access request net with
  | none => simp [hs] at h
  | some served =>
    simp only [hs] at h
    obtain ⟨rfl, rest⟩ := List.cons.inj h
    exact ⟨served, rfl, rfl, rest⟩

theorem serveSession_change {files : Files} {net : Network} {change : FileChange}
    {rest : List (SessionStep ApiRequest)} :
    serveSession store access files net (.change change :: rest) =
      none :: serveSession store access (files.change change) net rest :=
  rfl

theorem serveSession_spares {files : Files} {net : Network} {steps : List (SessionStep ApiRequest)}
    {kept : List (SessionStep ApiRequest × Option Served)}
    (h : Spares (steps.zip (serveSession store access files net steps)) kept) :
    serveSession store access files net
      (kept.map (·.1) ++ steps.drop (serveSession store access files net steps).length) =
        kept.map (·.2) := by
  induction steps generalizing files net kept with
  | nil =>
    cases h
    rfl
  | cons step rest ih =>
    cases step with
    | change change =>
      rw [serveSession_change] at h ⊢
      cases h with
      | keep step later =>
        simp only [List.map_cons, List.cons_append, List.length_cons, List.drop_succ_cons]
        rw [serveSession_change, ih later]
    | act request =>
      cases hs : serve (store files) access request net with
      | none =>
        simp only [serveSession_act, hs] at h ⊢
        cases h
        simp [serveSession_act, hs]
      | some served =>
        simp only [serveSession_act, hs] at h ⊢
        cases h with
        | keep step later =>
          simp only [List.map_cons, List.cons_append, List.length_cons, List.drop_succ_cons,
            serveSession_act, hs]
          rw [ih later]
        | drop request served idle later =>
          rw [serve_network_of_no_call hs idle] at later ⊢
          exact ih later

theorem serveSession_drawsAfter {files : Files} {net start : Network}
    {steps : List (SessionStep ApiRequest)} {before : List Call}
    {earlier later : List (Option Served)} {served : Served}
    (used : net.replies = start.replies.drop before.length)
    (h : serveSession store access files net steps = earlier ++ some served :: later) :
    served.DrawsAfter access start (before ++ callsOf earlier) := by
  induction steps generalizing files net before earlier with
  | nil => simp [serveSession, runSession] at h
  | cons step rest ih =>
    cases step with
    | change change =>
      rw [serveSession_change] at h
      cases earlier with
      | nil => cases h
      | cons answer others =>
        simp only [List.cons_append, List.cons.injEq] at h
        obtain ⟨rfl, next⟩ := h
        simpa [callsOf] using ih used next
    | act request =>
      cases earlier with
      | nil =>
        obtain ⟨first, same, hs, _⟩ := serveSession_act_eq_cons h
        cases same
        simpa [callsOf] using serve_drawsAfter hs used
      | cons answer others =>
        obtain ⟨first, rfl, hs, next⟩ := serveSession_act_eq_cons h
        have left : first.network.replies =
            start.replies.drop (before ++ first.calls).length := by
          rw [(serve_draws hs).left, used, List.drop_drop, List.length_append]
        simpa [callsOf] using ih left next

/-- A request without a call leaves no trace: a session goes the same way if it is left out. It is
without a call just if it does not get to the registry. All others use up a reply with each call and
share none, so that neither a token nor a result serves two of them. -/
theorem serveSession_traceless (store : Files → Store) (access : Access) (files : Files)
    (net : Network) (steps : List (SessionStep ApiRequest)) :
    (∀ kept, Spares (steps.zip (serveSession store access files net steps)) kept →
      serveSession store access files net
        (kept.map (·.1) ++ steps.drop (serveSession store access files net steps).length) =
          kept.map (·.2)) ∧
    (∀ earlier served later,
      serveSession store access files net steps = earlier ++ some served :: later →
      served.DrawsAfter access net (callsOf earlier)) ∧
    ∀ files request net served, serve (store files) access request net = some served →
      (served.calls = [] ↔ ¬ request.Asks (store files)) := by
  refine ⟨fun kept => serveSession_spares, fun earlier served later h => ?_,
    fun files request net served => serve_calls_eq_nil_iff⟩
  have unused : net.replies = net.replies.drop ([] : List Call).length := rfl
  exact serveSession_drawsAfter unused h

end Session

/-- A request with a bad id, left out from before one for the quota. -/
theorem serveSession_traceless_badId : ∃ rejected served,
    serveSession (fun _ => .oneLocal) {} {} .obliging
      [.act ⟨"GET", "http://localhost/api/endpoints/0/dockerhub/status"⟩,
        .act ⟨"GET", "http://localhost/api/endpoints/1/dockerhub/status"⟩] =
      [some rejected, some served] ∧
    rejected.answer.status = 400 ∧ served.answer.status = 200 ∧ served.calls.length = 2 ∧
    serveSession (fun _ => .oneLocal) {} {} .obliging
      [.act ⟨"GET", "http://localhost/api/endpoints/1/dockerhub/status"⟩] = [some served] ∧
    served.DrawsAfter {} .obliging [] ∧
    ¬ ApiRequest.Asks ⟨"GET", "http://localhost/api/endpoints/0/dockerhub/status"⟩ .oneLocal := by
  have ended : (serveSession (fun _ => .oneLocal) {} {} .obliging
      [.act ⟨"GET", "http://localhost/api/endpoints/0/dockerhub/status"⟩,
        .act ⟨"GET", "http://localhost/api/endpoints/1/dockerhub/status"⟩]).map
        (Option.map fun served => (served.answer.status, served.calls.length)) =
      [some (400, 0), some (200, 2)] := by
    decide +kernel
  obtain ⟨_, _, session, bad, last⟩ := List.map_eq_cons_iff.mp ended
  obtain ⟨_, rfl, good⟩ := List.map_eq_singleton_iff.mp last
  obtain ⟨rejected, rfl, shown⟩ := Option.map_eq_some_iff.mp bad
  obtain ⟨served, rfl, shown'⟩ := Option.map_eq_some_iff.mp good
  obtain ⟨status, uncalled⟩ := Prod.mk.inj shown
  obtain ⟨status', calls⟩ := Prod.mk.inj shown'
  have idle : rejected.calls = [] := List.eq_nil_of_length_eq_zero uncalled
  obtain ⟨_, same, first, _⟩ := serveSession_act_eq_cons session
  cases same
  obtain ⟨spares, draws, asks⟩ := serveSession_traceless (fun _ => .oneLocal) {} {} .obliging
    [.act ⟨"GET", "http://localhost/api/endpoints/0/dockerhub/status"⟩,
      .act ⟨"GET", "http://localhost/api/endpoints/1/dockerhub/status"⟩]
  rw [session] at spares draws
  have alone := spares _ (.drop _ rejected idle (.keep _ .nil))
  have drawn := draws [some rejected] served [] rfl
  exact ⟨rejected, served, session, status, status', calls, alone,
    by simpa [callsOf, idle] using drawn, (asks {} _ _ _ first).mp idle⟩

end PullQuota
