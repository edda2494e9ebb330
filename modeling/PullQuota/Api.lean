import PullQuota.Json.Writer
import PullQuota.Session
import PullQuota.Status
import PullQuota.Url.Address

/-!
The HTTP interface: a sign of life, and the quota of an environment.
-/

namespace PullQuota

inductive Route
  | health
  | status (id : String)
  | unknown
  deriving DecidableEq

namespace Route

/-- The path of a request, with its escapes decoded. Reserved characters stay escaped. -/
def pathOf (url : String) : List Char :=
  Percent.decode Percent.isReserved ((Url.path? url).getD [])

/-- The route of a path. An id is one segment, in which the reserved characters are decoded too. An
escape that only came about by decoding stays. -/
def ofPath (path : List Char) : Route :=
  if path = "/health".toList then .health
  else
    match path.splitOn '/' with
    | [[], api, endpoints, id, service, last] =>
      if api = "api".toList ∧ endpoints = "endpoints".toList ∧ id ≠ [] ∧
          service = "dockerhub".toList ∧ last = "status".toList then
        .status (String.ofList (Percent.decode (!Percent.isReserved ·) id))
      else .unknown
    | _ => .unknown

end Route

/-- A request to the service. -/
structure ApiRequest where
  method : String
  url : String
  deriving DecidableEq

/-- Why a request cannot be made. -/
inductive RequestError
  | notUrl (url : String)
  | hasAccount (url : String)
  | badMethod (method : String)
  | forbiddenMethod (method : String)
  deriving DecidableEq

def RequestError.message : RequestError → String
  | notUrl url => "Failed to parse URL from " ++ url
  | hasAccount url => "Request cannot be constructed from a URL that includes credentials: " ++ url
  | badMethod method => "'" ++ method ++ "' is not a valid HTTP method."
  | forbiddenMethod method => "'" ++ method ++ "' HTTP method is unsupported."

namespace ApiRequest

def upperName (method : String) : String :=
  String.ofList (method.toList.map Char.toUpper)

/-- The methods whose names are written in capitals, however they are given. -/
def commonMethods : List String :=
  ["DELETE", "GET", "HEAD", "OPTIONS", "POST", "PUT"]

/-- The methods that no client may use. -/
def forbiddenMethods : List String :=
  ["CONNECT", "TRACE", "TRACK"]

/-- The request for a target on this host. -/
def make (method target : String) : Except RequestError ApiRequest :=
  let url := "http://localhost" ++ target
  if (Url.scheme? url).isNone then .error (.notUrl url)
  else if Url.hasAccount url then .error (.hasAccount url)
  else if (FieldName.ofString? method).isNone then .error (.badMethod method)
  else if forbiddenMethods.contains (upperName method) then .error (.forbiddenMethod method)
  else if commonMethods.contains (upperName method) then .ok ⟨upperName method, url⟩
  else .ok ⟨method, url⟩

end ApiRequest

structure Answer where
  status : Nat
  contentType : String
  body : String
  deriving DecidableEq

namespace Answer

def text (status : Nat) (body : String) : Answer :=
  ⟨status, "text/plain; charset=UTF-8", body⟩

def json (status : Nat) (members : List (String × Json)) : Answer :=
  ⟨status, "application/json", (Json.object members).write⟩

def notFound : Answer :=
  text 404 "404 Not Found"

def withoutBody (answer : Answer) : Answer :=
  { answer with body := "" }

end Answer

/-- What a request to the service brought about. -/
structure Served where
  answer : Answer
  calls : List Call
  log : List LogLine
  network : Network

/-- The log line of a refusal: an error where the service is to blame, else a warning. -/
def refusalLine (id : String) (refusal : Refusal) : LogLine :=
  let message := "[dockerhub-status] endpoint=" ++ id ++ " kind=" ++ refusal.kind.name ++ ": " ++
    refusal.details
  if refusal.kind.httpStatus = 500 then .error message else .warning message

def Resolved.serve (resolved : Resolved) (id : String) : Served :=
  match resolved.resolution with
  | .quota quota =>
    ⟨.json 200 [("remaining", .number (.finite quota.remaining)),
        ("limit", .number (.finite quota.limit))],
      resolved.calls, resolved.log, resolved.network⟩
  | .refused refusal =>
    ⟨.json refusal.kind.httpStatus
        [("message", .string refusal.message), ("details", .string refusal.details)],
      resolved.calls, resolved.log ++ [refusalLine id refusal], resolved.network⟩
  | .broken _ =>
    ⟨.text 500 "Internal Server Error", resolved.calls, resolved.log, resolved.network⟩

def serveRoute (store : Store) (access : Access) (route : Route) (net : Network) : Option Served :=
  match route with
  | .health => some ⟨.json 200 [("status", .string "ok")], [], [], net⟩
  | .status id => (resolveStatus store access id net).map (·.serve id)
  | .unknown => some ⟨.notFound, [], [], net⟩

/-- Serves a request. A head request is served as the get request, and its answer loses its body. -/
def serve (store : Store) (access : Access) (request : ApiRequest) (net : Network) :
    Option Served :=
  let route := Route.ofPath (Route.pathOf request.url)
  if request.method = "GET" then serveRoute store access route net
  else if request.method = "HEAD" then
    (serveRoute store access route net).map fun served =>
      { served with answer := served.answer.withoutBody }
  else some ⟨.notFound, [], [], net⟩

/-- Serves requests in order, from a store over the files. -/
def serveSession (store : Files → Store) (access : Access) (files : Files) (net : Network)
    (steps : List (SessionStep ApiRequest)) : List (Option Served) :=
  runSession (fun files net request =>
    (serve (store files) access request net).map fun served => (served, files, served.network))
    files net steps

end PullQuota
