import PullQuota.Credentials
import PullQuota.Json.Reader
import PullQuota.Registry.Exchange

/-!
The exchange of an account, or of none, for a token that allows to pull.
-/

namespace PullQuota

/-- The token of a JSON object; an empty one is none. -/
def parseToken (body : String) : Option String :=
  match (Json.parse? body).bind (Json.get? "token") with
  | some (.string token) => if token = "" then none else some token
  | _ => none

/-- The text of a body. One byte order mark goes with the bytes, another with the decoding. -/
def bodyText (bytes : List UInt8) : String :=
  Utf8.decode (Utf8.dropMark (Utf8.dropMark bytes))

def tokenRequest (urls : RegistryUrls) (credentials : Credentials) : Request where
  method := .get
  url := urls.token
  headers :=
    ("Accept", "application/json") ::
      if credentials.authentication then [("Authorization", credentials.basicAuthorization)] else []

/-- Only a response of status 200 is read, and read to its end. -/
def readToken (timeout : Rat) (response : Response) (attempt : Attempt) :
    Option (Reading String) := do
  if response.status ≠ 200 then
    some ⟨.failed (.refused .token response.status), .unread, attempt⟩
  else
    match response.body with
    | none => some ⟨(parseToken "").elim (.failed .unreadableToken) .done, .absent, attempt⟩
    | some body =>
      let (content, attempt) ← attempt.read body
      match content with
      | .error fault =>
        some ⟨.ofTrouble .brokenToken (Trouble.of? attempt.expired timeout fault), .errored fault,
          attempt⟩
      | .ok bytes =>
        some ⟨(parseToken (bodyText bytes)).elim (.failed .unreadableToken) .done, .consumed,
          attempt⟩

def fetchToken (access : Access) (credentials : Credentials) (net : Network) :
    Option (Exchange String) :=
  net.exchange access.timeout .token (tokenRequest access.urls credentials)
    (readToken access.timeout)

end PullQuota
