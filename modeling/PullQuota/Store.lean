import PullQuota.Credentials
import PullQuota.Endpoint
import PullQuota.Json.Reader
import PullQuota.Session

/-!
The record of managed environments and of the registry account, and the stores that answer from it.
-/

namespace PullQuota

structure Document where
  endpoints : List Endpoint
  credentials : Credentials
  deriving DecidableEq

namespace Document

/-- A document has a list of environments, all of them valid, and may have an account; without one
access is anonymous. -/
def ofJson? : Json → Option Document
  | .object members => do
    let endpoints ← match Json.memberOf "endpoints" members with
      | some (.array items) => items.mapM Endpoint.ofJson?
      | _ => none
    let credentials ← match Json.memberOf "dockerhub" members with
      | none => some .anonymous
      | some account => Credentials.ofJson? account
    some ⟨endpoints, credentials⟩
  | _ => none

def toJson (d : Document) : Json :=
  .object [("endpoints", .array (d.endpoints.map Endpoint.toJson)),
    ("dockerhub", d.credentials.toJson)]

end Document

/-- What a store says on an environment. A store may also break down. -/
inductive Lookup
  | found (endpoint : Endpoint)
  | unknown (reason : String)
  | failed (reason : String)
  | broken (message : String)
  deriving DecidableEq

/-- A store: environments by id, and the account. -/
structure Store where
  endpoint : Rat → Lookup
  credentials : Except String Credentials

def findEndpoint (endpoints : List Endpoint) (id : Rat) : Lookup :=
  match endpoints.find? fun e => (e.id : Rat) == id with
  | some e => .found e
  | none => .unknown ("Endpoint " ++ (Number.finite id).text ++ " not found")

inductive DocumentError
  | unreadable (path : String) (error : FileError)
  | notJson
  | invalid
  deriving DecidableEq

namespace DocumentError

def message : DocumentError → String
  | unreadable path error => "Failed to read data store: " ++ error.readMessage path
  | notJson => "Failed to read data store: invalid JSON"
  | invalid => "Invalid data store structure"

end DocumentError

/-- Reads a document from a file. -/
def readDocument (files : Files) (path : String) : Except DocumentError Document :=
  match files.read path with
  | .error error => .error (.unreadable path error)
  | .ok bytes =>
    match Json.parse? (Utf8.decode bytes) with
    | none => .error .notJson
    | some value =>
      match Document.ofJson? value with
      | none => .error .invalid
      | some document => .ok document

namespace Store

/-- The store of a document file, which is read anew for every question. -/
def ofFile (files : Files) (path : String) : Store where
  endpoint id :=
    match readDocument files path with
    | .error error => .failed error.message
    | .ok document => findEndpoint document.endpoints id
  credentials :=
    match readDocument files path with
    | .error error => .error error.message
    | .ok document => .ok document.credentials

def ofDocument (document : Document) : Store where
  endpoint := findEndpoint document.endpoints
  credentials := .ok document.credentials

/-- A store that breaks down, or fails, when it is asked for an environment. -/
def withLookup (store : Store) (answer : Lookup) : Store :=
  { store with endpoint := fun _ => answer }

def withoutCredentials (store : Store) (reason : String) : Store :=
  { store with credentials := .error reason }

end Store

inductive StoreQuestion
  | endpoint (id : Rat)
  | credentials

inductive StoreAnswer
  | endpoint (lookup : Lookup)
  | credentials (account : Except String Credentials)

def Store.answer (store : Store) : StoreQuestion → StoreAnswer
  | .endpoint id => .endpoint (store.endpoint id)
  | .credentials => .credentials store.credentials

/-- Asks the store of a document file in turn. -/
def askFile (path : String) (files : Files) (steps : List (SessionStep StoreQuestion)) :
    List (Option StoreAnswer) :=
  runSession (fun files _ question =>
    some ((Store.ofFile files path).answer question, files, ())) files () steps

end PullQuota
