import PullQuota.Proofs.Courses
import PullQuota.Proofs.Encoding

/-!
What the token service is shown of an account: name and password can be recovered from it, as long
as the name holds no colon.
-/

namespace PullQuota

/-- The value of the header that shows who asks. -/
def Request.authorization? (request : Request) : Option String :=
  (request.headers.find? (·.1 == "Authorization")).map (·.2)

def Outcome.value? {α : Type} : Outcome α → Option α
  | done value => some value
  | failed _ => none
  | broken _ => none

/-- An inquiry asks for a token and, with the token that it is given, for the limits. It has asked
for them also when they never come. -/
theorem inquire_requests (access : Access) (credentials : Credentials) (net : Network) :
    (inquire access credentials net).requests = tokenRequest access.urls credentials ::
      ((fetchToken access credentials net).bind (·.outcome.value?)).toList.map
        (limitsRequest access.urls) := by
  simp only [inquire, Course.requests_bind, Course.requests_write, Course.requests_send,
    Course.result_write, Course.result_send]
  cases fetchToken access credentials net with
  | none => rfl
  | some first =>
    cases ho : first.outcome with
    | failed failure => simp [ho, Outcome.value?]
    | broken breakdown => simp [ho, Outcome.value?]
    | done bearer =>
      -- What is written and returned after the second request asks for nothing more.
      cases hl : fetchLimits access bearer first.network <;>
        simp [ho, hl, Outcome.value?, Course.requests_bind]

/-- The calls of an inquiry tell of the requests that its course makes. -/
theorem Inquiry.calls_requests {access : Access} {credentials : Credentials} {net : Network}
    {inquiry : Inquiry} (h : fetchQuota access credentials net = some inquiry) :
    inquiry.calls.map (·.request) = (inquire access credentials net).requests := by
  have recorded := inquire_record? access credentials net
  rw [h] at recorded
  obtain ⟨result, ended, same⟩ := Option.map_eq_some_iff.mp recorded
  exact (congrArg Record.requests same).symm

section Colon

theorem takeWhile_append_colon {cs : List Char} (h : ':' ∉ cs) (rest : List Char) :
    (cs ++ ':' :: rest).takeWhile (· != ':') = cs := by
  have before : ∀ c ∈ cs, (c != ':') = true := by
    rintro c mem
    rw [bne_iff_ne]
    rintro rfl
    exact h mem
  rw [List.takeWhile_append_of_pos before, List.takeWhile_cons_of_neg (by decide), List.append_nil]

/-- The first colon ends the name, whatever the password holds. -/
theorem append_colon_inj {name name' password password' : String} (h : ':' ∉ name.toList)
    (h' : ':' ∉ name'.toList) :
    name ++ ":" ++ password = name' ++ ":" ++ password' ↔
      name = name' ∧ password = password' := by
  constructor
  · intro same
    have lists :
        name.toList ++ ':' :: password.toList = name'.toList ++ ':' :: password'.toList := by
      simpa using congrArg String.toList same
    have names : name.toList = name'.toList := by
      rw [← takeWhile_append_colon h password.toList, lists, takeWhile_append_colon h']
    rw [names] at lists
    have passwords := (List.cons.inj (List.append_cancel_left lists)).2
    exact ⟨String.toList_inj.mp names, String.toList_inj.mp passwords⟩
  · rintro ⟨rfl, rfl⟩
    rfl

end Colon

theorem basicAuthorization_inj {credentials credentials' : Credentials} :
    credentials.basicAuthorization = credentials'.basicAuthorization ↔
      credentials.username ++ ":" ++ credentials.password =
        credentials'.username ++ ":" ++ credentials'.password := by
  rw [Credentials.basicAuthorization, Credentials.basicAuthorization, String.append_right_inj,
    String.ofList_inj, Base64.encode_inj, Utf8.encode_inj]

/-- A request shows an account: name and password, with a colon between them, as UTF-8 and that as
padded Base64. -/
def Request.Shows (request : Request) (credentials : Credentials) : Prop :=
  ∃ digits, request.authorization? = some ("Basic " ++ String.ofList digits) ∧
    Base64.Padded digits ∧
    Base64.decode? digits =
      some (Utf8.encode (credentials.username ++ ":" ++ credentials.password))

section Shown

variable {urls urls' : RegistryUrls} {credentials credentials' : Credentials}

theorem tokenRequest_authorization? (h : credentials.authentication = true) :
    (tokenRequest urls credentials).authorization? = some credentials.basicAuthorization := by
  simp [tokenRequest, Request.authorization?, h]

theorem tokenRequest_shows (h : credentials.authentication = true) :
    (tokenRequest urls credentials).Shows credentials :=
  ⟨_, tokenRequest_authorization? h, Base64.padded_encode _, Base64.decode?_encode _⟩

theorem tokenRequest_authorization?_inj (h : credentials.authentication = true)
    (h' : credentials'.authentication = true) (name : ':' ∉ credentials.username.toList)
    (name' : ':' ∉ credentials'.username.toList) :
    (tokenRequest urls credentials).authorization? =
        (tokenRequest urls' credentials').authorization? ↔
      credentials.username = credentials'.username ∧
        credentials.password = credentials'.password := by
  rw [tokenRequest_authorization? h, tokenRequest_authorization? h', Option.some_inj,
    basicAuthorization_inj, append_colon_inj name name']

end Shown

/-- An account whose password holds colons and letters of two bytes. -/
def Credentials.umlauts : Credentials :=
  ⟨true, "jörg", ":ä:ö", []⟩

end PullQuota
