import PullQuota.Registry.Exchange
import PullQuota.Text.Count
import PullQuota.Url.Address

/-!
Settings of the service, from the environment. A blank variable counts as unset.
-/

namespace PullQuota

/-- The text of each variable that is set. -/
abbrev Variables := String → Option String

structure Settings where
  tcpPort : Nat
  host : String
  dataFile : String
  timeout : Nat
  urls : RegistryUrls
  deriving DecidableEq

inductive SettingError
  | notInRange (name value : String)
  | notUrl (name value : String)
  | notWeb (name : String)
  deriving DecidableEq

def SettingError.message : SettingError → String
  | notInRange name value =>
    "Invalid " ++ name ++ ": \"" ++ value ++ "\" is not an integer in range"
  | notUrl name value => "Invalid " ++ name ++ ": \"" ++ value ++ "\" is not a URL"
  | notWeb name => "Invalid " ++ name ++ ": only http and https URLs are supported"

namespace Variables

def text? (env : Variables) (name : String) : Option String :=
  match env name with
  | none => none
  | some value => if trim value = "" then none else some (trim value)

def count (env : Variables) (name : String) (standard least greatest : Nat) :
    Except SettingError Nat :=
  match env.text? name with
  | none => .ok standard
  | some value =>
    match parseCount value with
    | some n => if least ≤ n ∧ n ≤ greatest then .ok n else .error (.notInRange name value)
    | none => .error (.notInRange name value)

/-- A URL is kept as it is written; it must be one on its own, of the web. -/
def url (env : Variables) (name standard : String) : Except SettingError String :=
  match env.text? name with
  | none => .ok standard
  | some value =>
    match Url.scheme? value with
    | none => .error (.notUrl name value)
    | some scheme =>
      if scheme = "http" ∨ scheme = "https" then .ok value else .error (.notWeb name)

end Variables

/-- Reads the settings; of several bad variables the first is reported. -/
def Settings.ofVariables (env : Variables) : Except SettingError Settings := do
  let tcpPort ← env.count "PORT" 9000 1 65535
  let timeout ← env.count "DOCKERHUB_TIMEOUT_MS" 10000 1 Number.maxCount
  let token ← env.url "DOCKERHUB_TOKEN_URL" RegistryUrls.standard.token
  let limits ← env.url "DOCKERHUB_RATE_LIMIT_URL" RegistryUrls.standard.limits
  return {
    tcpPort
    host := (env.text? "HOST").getD "0.0.0.0"
    dataFile := (env.text? "DATA_FILE").getD "./data/datastore.json"
    timeout
    urls := ⟨token, limits⟩ }

end PullQuota
