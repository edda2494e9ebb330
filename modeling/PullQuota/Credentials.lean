import PullQuota.Json.Basic
import PullQuota.Text.Base64
import PullQuota.Text.Utf8

/-!
The registry account, and the authorization that it gives.
-/

namespace PullQuota

/-- An account. Without authentication its name and password are not used. -/
structure Credentials where
  authentication : Bool
  username : String
  password : String
  extra : List (String × Json) := []
  deriving DecidableEq

namespace Credentials

def anonymous : Credentials :=
  ⟨false, "", "", []⟩

def memberNames : List String :=
  ["authentication", "username", "password"]

def ofJson? : Json → Option Credentials
  | .object members =>
    match Json.memberOf "authentication" members, Json.memberOf "username" members,
      Json.memberOf "password" members with
    | some (.bool authentication), some (.string username), some (.string password) =>
      some ⟨authentication, username, password, members.filter (!memberNames.contains ·.1)⟩
    | _, _, _ => none
  | _ => none

def toJson (c : Credentials) : Json :=
  .object (("authentication", .bool c.authentication) :: ("username", .string c.username) ::
    ("password", .string c.password) :: c.extra)

/-- Name and password, with a colon between them, as Base64. -/
def basicAuthorization (c : Credentials) : String :=
  "Basic " ++ String.ofList (Base64.encode (Utf8.encode (c.username ++ ":" ++ c.password)))

end Credentials

end PullQuota
