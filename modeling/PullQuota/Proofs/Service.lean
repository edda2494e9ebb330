import PullQuota.Proofs.Concealment
import PullQuota.Proofs.Documents
import PullQuota.Server

/-!
The running service over its data file. What a question comes to is decided by the file as it is at
that time, whatever signals came before; and of the account in the file nothing shows.
-/

namespace PullQuota

/-- The files after the steps of a session whose actions leave them as they are. -/
def Files.after {α : Type} (files : Files) : List (SessionStep α) → Files
  | [] => files
  | .change change :: rest => (files.change change).after rest
  | .act _ :: rest => files.after rest

/-- The network as the answers of a session leave it. -/
def Network.after (net : Network) : List (Option ServerAnswer) → Network
  | [] => net
  | some (.served served) :: rest => served.network.after rest
  | some (.signalled _ _) :: rest => net.after rest
  | none :: rest => net.after rest

/-- An answer to a question for a quota, as the document in the data file decides it: without one no
question gets past its id, and an id that it does not have is not found. -/
structure Served.FollowsFile (served : Served) (server : Server) (files : Files) (id : String)
    (net : Network) : Prop where
  decided : ∃ resolved : Resolved,
    resolved.Decided (.ofFile files server.settings.dataFile) server.access id net ∧
      served.Tells resolved
  failed : ∀ n, ReadsId id n → files.LacksDocument server.settings.dataFile →
    served.answer.status = 500 ∧ served.calls = []
  notFound : ∀ n document, ReadsId id n →
    files.HoldsDocument server.settings.dataFile document →
    (∀ endpoint ∈ document.endpoints, (endpoint.id : Rat) ≠ n) →
    served.answer.status = 404 ∧ served.calls = []

namespace Server

section Steps

variable {server : Server} {files : Files} {net : Network} {rest : List (SessionStep ServerEvent)}

theorem signal_settings (signal : Signal) :
    (server.signal signal).2.settings = server.settings := by
  unfold Server.signal
  split <;> rfl

/-- How a service serves is up to its settings. -/
theorem serve_congr {server' : Server} (same : server'.settings = server.settings) :
    server'.serve = server.serve := by
  unfold serve access
  rw [same]

theorem session_change {change : FileChange} :
    server.session files net (.change change :: rest) =
      none :: server.session (files.change change) net rest :=
  rfl

theorem session_signal {signal : Signal} :
    server.session files net (.act (.signal signal) :: rest) =
      some (.signalled (server.signal signal).1 (server.signal signal).2.closes) ::
        (server.signal signal).2.session files net rest :=
  rfl

theorem session_request {request : ApiRequest} :
    server.session files net (.act (.request request) :: rest) =
      match server.serve files request net with
      | none => []
      | some served => some (.served served) :: server.session files served.network rest := by
  unfold session
  rw [runSession, react]
  cases server.serve files request net <;> rfl

end Steps

theorem serve_followsFile {server : Server} {files : Files} {net : Network} {request : ApiRequest}
    {id : String} {served : Served} (method : request.method = "GET" ∨ request.method = "HEAD")
    (route : Route.ofPath (Route.pathOf request.url) = .status id)
    (h : server.serve files request net = some served) :
    served.FollowsFile server files id net := by
  cases hr : resolveStatus (.ofFile files server.settings.dataFile) server.access id net with
  | none =>
    rcases method with method | method <;>
      simp [serve, PullQuota.serve, serveRoute, route, method, hr] at h
  | some resolved =>
    obtain ⟨_, hs, tells⟩ := serve_of_resolveStatus hr route method
    cases h.symm.trans hs
    have decided := Resolved.decided_of_resolveStatus (Store.ofFile_answers _ _) hr
    refine ⟨⟨resolved, decided, tells⟩, fun n hid lacks => ?_,
      fun n document hid holds others => ?_⟩
    · obtain ⟨reason, fails⟩ := Store.ofFile_fails lacks
      obtain ⟨⟨refusal, refused, kind⟩, calls, _⟩ :=
        decided.unavailable n reason hid (fails.endpoint n)
      have status := tells.failed refusal refused (by simp [kind]) (by simp [kind]) (by simp [kind])
      exact ⟨status, tells.calls.trans calls⟩
    · obtain ⟨reason, unknown⟩ := ((Store.ofFile_serves holds).unknown n).mpr others
      obtain ⟨⟨refusal, refused, kind⟩, calls, _⟩ := decided.unknown n reason hid unknown
      exact ⟨tells.notFound refusal refused kind, tells.calls.trans calls⟩

section Session

variable {server : Server} {files : Files} {net : Network} {steps : List (SessionStep ServerEvent)}
  {earlier later : List (Option ServerAnswer)} {served : Served}

/-- An answer of a session is the one that the service gives at that point, over the files and the
network as they have become. -/
theorem session_eq_append
    (h : server.session files net steps = earlier ++ some (.served served) :: later) :
    ∃ request, steps[earlier.length]? = some (.act (.request request)) ∧
      server.serve (files.after (steps.take earlier.length)) request (net.after earlier) =
        some served := by
  induction steps generalizing server files net earlier with
  | nil => simp [session, runSession] at h
  | cons step rest ih =>
    cases step with
    | change change =>
      rw [session_change] at h
      cases earlier with
      | nil => cases h
      | cons answer others =>
        obtain ⟨rfl, next⟩ := List.cons.inj h
        exact ih next
    | act event =>
      cases event with
      | signal signal =>
        rw [session_signal] at h
        cases earlier with
        | nil => cases h
        | cons answer others =>
          obtain ⟨rfl, next⟩ := List.cons.inj h
          obtain ⟨request, asked, hs⟩ := ih next
          rw [serve_congr (signal_settings signal)] at hs
          exact ⟨request, asked, hs⟩
      | request request =>
        rw [session_request] at h
        cases hs : server.serve files request net with
        | none => simp [hs] at h
        | some first =>
          rw [hs] at h
          cases earlier with
          | nil =>
            cases h
            exact ⟨request, rfl, hs⟩
          | cons answer others =>
            obtain ⟨rfl, next⟩ := List.cons.inj h
            exact ih next

/-- In a session each question for a quota follows the data file as it is then, whatever it was
before and whatever signals came. -/
theorem session_followsFile
    (h : server.session files net steps = earlier ++ some (.served served) :: later) :
    ∃ request, steps[earlier.length]? = some (.act (.request request)) ∧
      ∀ id, request.method = "GET" ∨ request.method = "HEAD" →
        Route.ofPath (Route.pathOf request.url) = .status id →
        served.FollowsFile server (files.after (steps.take earlier.length)) id
          (net.after earlier) := by
  obtain ⟨request, asked, hs⟩ := session_eq_append h
  exact ⟨request, asked, fun _ method route => serve_followsFile method route hs⟩

end Session

end Server

/-- Related answers to a request, or twice the same to a signal. -/
inductive ServerAnswer.Rel (S : Served → Served → Prop) : ServerAnswer → ServerAnswer → Prop
  | served {served served' : Served} (related : S served served') :
      Rel S (.served served) (.served served')
  | signalled (log : List LogLine) (closes : Nat) :
      Rel S (.signalled log closes) (.signalled log closes)

theorem ServerAnswer.Rel.eq {answer answer' : ServerAnswer} (h : Rel Eq answer answer') :
    answer = answer' := by
  cases h with
  | served related => rw [related]
  | signalled log closes => rfl

/-- The store of a file is anonymous if the document in the file is. -/
theorem Store.ofFile_anonymous {files : Files} {path : String}
    (h : ∀ document, files.HoldsDocument path document →
      document.credentials.authentication = false) : (ofFile files path).Anonymous := by
  intro credentials account
  rcases ofFile_fails_or_serves files path with ⟨reason, fails⟩ | ⟨document, holds, serves⟩
  · cases fails.credentials.symm.trans account
  · cases serves.credentials.symm.trans account
    exact h document holds

namespace Server

variable {server : Server} {files files' : Files}

/-- What relates the answers to requests relates the answers of whole sessions, signals included. -/
theorem session_rel {R : Network → Network → Prop} {S : Served → Served → Prop}
    (serves : ∀ request net net', R net net' →
      Option.Rel S (server.serve files request net) (server.serve files' request net'))
    (left : ∀ served served', S served served' → R served.network served'.network)
    (events : List ServerEvent) {net net' : Network} (nets : R net net') :
    List.Forall₂ (Option.Rel (ServerAnswer.Rel S)) (server.session files net (events.map .act))
      (server.session files' net' (events.map .act)) := by
  -- Signals change the service, but not its settings.
  refine runSession_rel (R := fun state state' => state.1 = state'.1 ∧
    state.1.settings = server.settings ∧ R state.2 state'.2) ?_ events ⟨rfl, rfl, nets⟩
  rintro ⟨server', net⟩ ⟨_, net'⟩ event ⟨rfl, settings, nets⟩
  cases event with
  | signal signal =>
    exact .some ⟨.signalled _ _, rfl, rfl, rfl, (signal_settings signal).trans settings, nets⟩
  | request request =>
    have related := serves request net net' nets
    rw [← serve_congr settings] at related
    exact rel_map related fun served served' related =>
      ⟨.served related, rfl, rfl, rfl, settings, left served served' related⟩

variable (documents : Except.Rel Document.Alike (readDocument files server.settings.dataFile)
  (readDocument files' server.settings.dataFile))

include documents

/-- Services over files that differ in the account say the same, at the same time, to the same
requests and signals. -/
theorem session_alike (events : List ServerEvent) {net net' : Network} (nets : net.Alike net') :
    List.Forall₂ (Option.Rel (ServerAnswer.Rel Served.Alike))
      (server.session files net (events.map .act))
      (server.session files' net' (events.map .act)) := by
  have stores := Store.ofFile_alike documents
  exact session_rel (fun request _ _ nets => serve_alike stores server.access request nets)
    (fun _ _ alike => alike.network) events nets

/-- An account that is not to be shown is not shown to the registry either. -/
theorem session_anonymous
    (anonymous : ∀ document, files.HoldsDocument server.settings.dataFile document →
      document.credentials.authentication = false)
    (events : List ServerEvent) (net : Network) :
    server.session files net (events.map .act) = server.session files' net (events.map .act) := by
  have stores := Store.ofFile_alike documents
  refine eq_of_forall₂_rel (fun _ _ => ServerAnswer.Rel.eq)
    (session_rel (R := Eq) (fun request net net' nets => ?_) (fun _ _ => congrArg _) events rfl)
  have same : server.serve files request net = server.serve files' request net :=
    serve_anonymous stores (Store.ofFile_anonymous anonymous) server.access request net
  rw [← nets, same]
  cases server.serve files' request net with
  | none => exact .none
  | some served => exact .some rfl

end Server

end PullQuota
