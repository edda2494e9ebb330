import PullQuota.Api
import PullQuota.Proofs.Likeness

/-!
The service keeps its secrets: its answers and its log are the same whatever the account and the
tokens are.
-/

namespace PullQuota

/-- Stores that differ at most in the account, and not in whether it is to be shown. -/
structure Store.Alike (store store' : Store) : Prop where
  endpoint : store.endpoint = store'.endpoint
  credentials : Except.Rel Credentials.Alike store.credentials store'.credentials

structure Document.Alike (document document' : Document) : Prop where
  endpoints : document.endpoints = document'.endpoints
  credentials : document.credentials.Alike document'.credentials

theorem Store.ofFile_alike {files files' : Files} {path path' : String}
    (h : Except.Rel Document.Alike (readDocument files path) (readDocument files' path')) :
    (ofFile files path).Alike (ofFile files' path') := by
  unfold ofFile
  generalize readDocument files path = document at h ⊢
  generalize readDocument files' path' = document' at h ⊢
  cases h with
  | error error => exact ⟨rfl, .error error.message⟩
  | ok alike => exact ⟨by simp only [alike.endpoints], .ok alike.credentials⟩

theorem Store.ofDocument_alike {document document' : Document} (h : document.Alike document') :
    (ofDocument document).Alike (ofDocument document') :=
  ⟨congrArg findEndpoint h.endpoints, .ok h.credentials⟩

/-- A store whose account, if it has one to give, is not shown to the registry. -/
def Store.Anonymous (store : Store) : Prop :=
  ∀ credentials, store.credentials = .ok credentials → credentials.authentication = false

structure Resolved.Alike (resolved resolved' : Resolved) : Prop where
  resolution : resolved.resolution = resolved'.resolution
  calls : List.Forall₂ Call.Alike resolved.calls resolved'.calls
  log : resolved.log = resolved'.log
  network : resolved.network.Alike resolved'.network

/-- Requests that were served with the same answer, the same log and at the same time; what was
asked meanwhile differs at most in the account or the token that was shown. -/
structure Served.Alike (served served' : Served) : Prop where
  answer : served.answer = served'.answer
  calls : List.Forall₂ Call.Alike served.calls served'.calls
  log : served.log = served'.log
  network : served.network.Alike served'.network

theorem Resolved.Alike.serve {resolved resolved' : Resolved} (h : resolved.Alike resolved')
    (id : String) : (resolved.serve id).Alike (resolved'.serve id) := by
  unfold Resolved.serve
  rw [← h.resolution, ← h.log]
  cases resolved.resolution with
  | quota quota => exact ⟨rfl, h.calls, rfl, h.network⟩
  | refused refusal => exact ⟨rfl, h.calls, rfl, h.network⟩
  | broken breakdown => exact ⟨rfl, h.calls, rfl, h.network⟩

section Alike

variable {store store' : Store} {net net' : Network}

theorem Network.Alike.locally (h : net.Alike net') (resolution : Resolution) :
    (Resolved.locally net resolution).Alike (Resolved.locally net' resolution) :=
  ⟨rfl, .nil, rfl, h⟩

theorem resolveStatus_alike (stores : store.Alike store') (access : Access) (id : String)
    (nets : net.Alike net') :
    Option.Rel Resolved.Alike (resolveStatus store access id net)
      (resolveStatus store' access id net') := by
  have accounts := stores.credentials
  unfold resolveStatus
  rw [← stores.endpoint]
  split
  next => exact .some (nets.locally _)
  next => exact .some (nets.locally _)
  next n _ _ =>
    cases store.endpoint n with
    | unknown reason => exact .some (nets.locally _)
    | failed reason => exact .some (nets.locally _)
    | broken message => exact .some (nets.locally _)
    | found endpoint =>
      dsimp only
      split
      next =>
        generalize store.credentials = account at accounts ⊢
        generalize store'.credentials = account' at accounts ⊢
        cases accounts with
        | error reason => exact .some (nets.locally _)
        | ok alike =>
          refine rel_map (fetchQuota_alike access alike nets) fun inquiry inquiry' asked => ?_
          exact ⟨congrArg Resolution.ofOutcome asked.outcome, asked.calls, asked.log, asked.network⟩
      next => exact .some (nets.locally _)

theorem serveRoute_alike (stores : store.Alike store') (access : Access) (route : Route)
    (nets : net.Alike net') :
    Option.Rel Served.Alike (serveRoute store access route net)
      (serveRoute store' access route net') := by
  cases route with
  | health => exact .some ⟨rfl, .nil, rfl, nets⟩
  | unknown => exact .some ⟨rfl, .nil, rfl, nets⟩
  | status id =>
    exact rel_map (resolveStatus_alike stores access id nets) fun _ _ alike => alike.serve id

theorem serve_alike (stores : store.Alike store') (access : Access) (request : ApiRequest)
    (nets : net.Alike net') :
    Option.Rel Served.Alike (serve store access request net)
      (serve store' access request net') := by
  unfold serve
  have routed := serveRoute_alike stores access (Route.ofPath (Route.pathOf request.url)) nets
  split
  next => exact routed
  next =>
    split
    next =>
      refine rel_map routed fun served served' alike => ?_
      exact ⟨congrArg Answer.withoutBody alike.answer, alike.calls, alike.log, alike.network⟩
    next => exact .some ⟨rfl, .nil, rfl, nets⟩

end Alike

section Anonymous

variable {store store' : Store}

theorem fetchQuota_anonymous {credentials credentials' : Credentials} (access : Access)
    (net : Network) (anonymous : credentials.authentication = false)
    (anonymous' : credentials'.authentication = false) :
    fetchQuota access credentials net = fetchQuota access credentials' net := by
  have request : tokenRequest access.urls credentials = tokenRequest access.urls credentials' := by
    simp [tokenRequest, anonymous, anonymous']
  have token : fetchToken access credentials net = fetchToken access credentials' net := by
    rw [fetchToken, fetchToken, request]
  rw [fetchQuota, fetchQuota, token, anonymous, anonymous']

theorem resolveStatus_anonymous (stores : store.Alike store') (anonymous : store.Anonymous)
    (access : Access) (id : String) (net : Network) :
    resolveStatus store access id net = resolveStatus store' access id net := by
  have accounts := stores.credentials
  unfold Store.Anonymous at anonymous
  unfold resolveStatus
  rw [← stores.endpoint]
  generalize store.credentials = account at accounts anonymous ⊢
  generalize store'.credentials = account' at accounts ⊢
  cases accounts with
  | error reason => rfl
  | @ok credentials credentials' alike =>
    have plain := anonymous credentials rfl
    have same := fetchQuota_anonymous access net plain (alike.symm.trans plain)
    simp only [askRegistry, same]

theorem serve_anonymous (stores : store.Alike store') (anonymous : store.Anonymous)
    (access : Access) (request : ApiRequest) (net : Network) :
    serve store access request net = serve store' access request net := by
  have routed (route : Route) :
      serveRoute store access route net = serveRoute store' access route net := by
    cases route with
    | health => rfl
    | unknown => rfl
    | status id => rw [serveRoute, serveRoute, resolveStatus_anonymous stores anonymous]
  simp only [serve, routed]

end Anonymous

section Session

/-- Two sessions whose actions leave the files as they are. When related states answer to an action
with related answers and go on to related states, the sessions do so from their start to their
end. -/
theorem runSession_rel {σ σ' α β β' : Type} {act : Files → σ → α → Option (β × Files × σ)}
    {act' : Files → σ' → α → Option (β' × Files × σ')} {files files' : Files}
    {R : σ → σ' → Prop} {S : β → β' → Prop}
    (step : ∀ state state' action, R state state' → Option.Rel (fun next next' =>
      S next.1 next'.1 ∧ next.2.1 = files ∧ next'.2.1 = files' ∧ R next.2.2 next'.2.2)
        (act files state action) (act' files' state' action))
    (actions : List α) {state : σ} {state' : σ'} (states : R state state') :
    List.Forall₂ (Option.Rel S) (runSession act files state (actions.map .act))
      (runSession act' files' state' (actions.map .act)) := by
  induction actions generalizing state state' with
  | nil => exact .nil
  | cons action rest ih =>
    have next := step state state' action states
    simp only [List.map_cons, runSession]
    generalize act files state action = first at next ⊢
    generalize act' files' state' action = second at next ⊢
    cases next with
    | none => exact .nil
    | @some first second related =>
      obtain ⟨answer, left, after⟩ := first
      obtain ⟨answer', left', after'⟩ := second
      obtain ⟨answers, rfl, rfl, states⟩ := related
      exact .cons (.some answers) (ih states)

theorem eq_of_forall₂_rel {α : Type} {S : α → α → Prop} (eq : ∀ a b, S a b → a = b)
    {answers answers' : List (Option α)} (h : List.Forall₂ (Option.Rel S) answers answers') :
    answers = answers' := by
  rw [← List.forall₂_eq_eq_eq]
  refine h.imp fun answer answer' related => ?_
  cases related with
  | none => rfl
  | some related => exact congrArg some (eq _ _ related)

variable {store store' : Files → Store} {files files' : Files} {access : Access}

theorem serveSession_alike (stores : (store files).Alike (store' files'))
    (requests : List ApiRequest) {net net' : Network} (nets : net.Alike net') :
    List.Forall₂ (Option.Rel Served.Alike)
      (serveSession store access files net (requests.map .act))
      (serveSession store' access files' net' (requests.map .act)) := by
  -- Each request leaves alike networks to the next one.
  refine runSession_rel (fun net net' request nets => ?_) requests nets
  exact rel_map (serve_alike stores access request nets) fun _ _ alike =>
    ⟨alike, rfl, rfl, alike.network⟩

theorem serveSession_congr (same : ∀ request net,
      serve (store files) access request net = serve (store' files') access request net)
    (requests : List ApiRequest) (net : Network) :
    serveSession store access files net (requests.map .act) =
      serveSession store' access files' net (requests.map .act) := by
  refine eq_of_forall₂_rel (fun _ _ => id)
    (runSession_rel (R := Eq) (fun net net' request nets => ?_) requests rfl)
  subst nets
  rw [same]
  cases serve (store' files') access request net with
  | none => exact .none
  | some served => exact .some ⟨rfl, rfl, rfl, rfl⟩

/-- Of the account and the tokens nothing shows in the answers, in the log or by the clock. They show
in the authorizations that are sent, and the account only if it is one to show. -/
theorem serveSession_conceals (stores : (store files).Alike (store' files'))
    (requests : List ApiRequest) :
    (∀ net net', net.Alike net' → List.Forall₂ (Option.Rel Served.Alike)
      (serveSession store access files net (requests.map .act))
      (serveSession store' access files' net' (requests.map .act))) ∧
    ((store files).Anonymous → ∀ net,
      serveSession store access files net (requests.map .act) =
        serveSession store' access files' net (requests.map .act)) :=
  ⟨fun _ _ nets => serveSession_alike stores requests nets,
    fun anonymous net => serveSession_congr (serve_anonymous stores anonymous access) requests net⟩

end Session

/-- The store of one local environment and an account. -/
def Store.ofAccount (username password : String) : Store :=
  .ofDocument ⟨[⟨1, "local", "unix:///var/run/docker.sock", .docker, []⟩],
    ⟨true, username, password, []⟩⟩

theorem Store.ofAccount_alike (username username' password password' : String) :
    (ofAccount username password).Alike (ofAccount username' password') :=
  ofDocument_alike ⟨rfl, rfl⟩

/-- A network that answers with a text, and then with the limits. -/
def Network.answering (text : String) : Network where
  replies := [
    .later ⟨.instant, true⟩ (.ok ⟨200, [], some
      ⟨⟨.instant, true⟩, [Utf8.encode text], none, none⟩⟩),
    .later ⟨.instant, true⟩ (.ok ⟨200,
      [("RateLimit-Limit", "100;w=21600"), ("RateLimit-Remaining", "76")], none⟩)]

theorem Network.answering_alike {text text' : String}
    (token : hasToken (Utf8.encode text) = hasToken (Utf8.encode text')) :
    (answering text).Alike (answering text') := by
  have bodies : Body.Alike ⟨⟨.instant, true⟩, [Utf8.encode text], none, none⟩
      ⟨⟨.instant, true⟩, [Utf8.encode text'], none, none⟩ :=
    ⟨rfl, rfl, by simpa using token⟩
  exact ⟨.cons (.later _ (.ok ⟨rfl, rfl, .some bodies⟩))
    (.cons (.later _ (.ok ⟨rfl, rfl, .none⟩)) .nil), rfl, rfl⟩

/-- What a request was answered, and the authorizations that were sent meanwhile. -/
def Served.shown (served : Served) : String × List (Option String) :=
  (served.answer.body, served.calls.map (·.request.headers.lookup "Authorization"))

/-- Two accounts and two tokens: the answers are the same, and the authorizations are not. -/
theorem serveSession_conceals_account : ∃ served served',
    serveSession (fun _ => .ofAccount "me" "secret") {} {}
      (.answering "\x7b\"token\":\"pass\"\x7d")
      ([⟨"GET", "http://localhost/api/endpoints/1/dockerhub/status"⟩].map .act) = [some served] ∧
    serveSession (fun _ => .ofAccount "you" "riddle") {} {}
      (.answering "\x7b\"token\":\"leave\"\x7d")
      ([⟨"GET", "http://localhost/api/endpoints/1/dockerhub/status"⟩].map .act) = [some served'] ∧
    served.Alike served' ∧
    served.shown = ("\x7b\"remaining\":76,\"limit\":100\x7d",
      [some "Basic bWU6c2VjcmV0", some "Bearer pass"]) ∧
    served'.shown = ("\x7b\"remaining\":76,\"limit\":100\x7d",
      [some "Basic eW91OnJpZGRsZQ==", some "Bearer leave"]) := by
  have ended : (serveSession (fun _ => .ofAccount "me" "secret") {} {}
      (.answering "\x7b\"token\":\"pass\"\x7d")
      ([⟨"GET", "http://localhost/api/endpoints/1/dockerhub/status"⟩].map .act)).map
        (Option.map Served.shown) = [some ("\x7b\"remaining\":76,\"limit\":100\x7d",
          [some "Basic bWU6c2VjcmV0", some "Bearer pass"])] := by
    decide +kernel
  have ended' : (serveSession (fun _ => .ofAccount "you" "riddle") {} {}
      (.answering "\x7b\"token\":\"leave\"\x7d")
      ([⟨"GET", "http://localhost/api/endpoints/1/dockerhub/status"⟩].map .act)).map
        (Option.map Served.shown) = [some ("\x7b\"remaining\":76,\"limit\":100\x7d",
          [some "Basic eW91OnJpZGRsZQ==", some "Bearer leave"])] := by
    decide +kernel
  have nets : (Network.answering "\x7b\"token\":\"pass\"\x7d").Alike
      (.answering "\x7b\"token\":\"leave\"\x7d") :=
    Network.answering_alike (by decide +kernel)
  have served := (@serveSession_conceals (fun _ => .ofAccount "me" "secret")
    (fun _ => .ofAccount "you" "riddle") {} {} {} (Store.ofAccount_alike _ _ _ _)
    [⟨"GET", "http://localhost/api/endpoints/1/dockerhub/status"⟩]).1 _ _ nets
  obtain ⟨_, session, ended⟩ := List.map_eq_singleton_iff.mp ended
  obtain ⟨first, rfl, shown⟩ := Option.map_eq_some_iff.mp ended
  obtain ⟨_, session', ended'⟩ := List.map_eq_singleton_iff.mp ended'
  obtain ⟨first', rfl, shown'⟩ := Option.map_eq_some_iff.mp ended'
  rw [session, session'] at served
  obtain ⟨alike, _⟩ := List.forall₂_cons.mp served
  exact ⟨first, first', session, session', Option.rel_some_some.mp alike, shown, shown'⟩

end PullQuota
