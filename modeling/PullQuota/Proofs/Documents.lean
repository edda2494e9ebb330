import PullQuota.Proofs.Admission

/-!
What a store answers that reads its document from a file: the same failure to every question, or
what the document says.
-/

namespace PullQuota

/-- All items give a result, and these are the results in their order. -/
theorem mapM_eq_some_iff {α β : Type} {f : α → Option β} {items : List α} {results : List β} :
    items.mapM f = some results ↔ items.map f = results.map some := by
  induction items generalizing results with
  | nil => cases results <;> simp
  | cons item rest ih =>
    cases results with
    | nil => simp [Option.bind_eq_some_iff]
    | cons result later => simp [Option.bind_eq_some_iff, ← ih]

namespace Document

/-- The document that the members of an object describe. -/
structure DescribedBy (document : Document) (members : List (String × Json)) : Prop where
  endpoints : ∃ items, Json.memberOf "endpoints" members = some (.array items) ∧
    items.map Endpoint.ofJson? = document.endpoints.map some
  account : ∀ account, Json.memberOf "dockerhub" members = some account →
    Credentials.ofJson? account = some document.credentials
  anonymous : Json.memberOf "dockerhub" members = none → document.credentials = .anonymous

theorem ofJson?_object_eq_some_iff {members : List (String × Json)} {document : Document} :
    ofJson? (.object members) = some document ↔ document.DescribedBy members := by
  constructor
  · intro h
    simp only [ofJson?] at h
    split at h
    next items hm =>
      obtain ⟨endpoints, read, h⟩ := Option.bind_eq_some_iff.mp h
      have endpoints_eq := mapM_eq_some_iff.mp read
      split at h
      next none =>
        cases Option.some.inj h
        exact ⟨⟨items, hm, endpoints_eq⟩, by simp [none], fun _ => rfl⟩
      next value some =>
        obtain ⟨credentials, account, h⟩ := Option.bind_eq_some_iff.mp h
        cases Option.some.inj h
        exact ⟨⟨items, hm, endpoints_eq⟩, by simp [some, account], by simp [some]⟩
    next => cases h
  · rintro ⟨⟨items, hm, read⟩, account, anonymous⟩
    have endpoints := mapM_eq_some_iff.mpr read
    cases ha : Json.memberOf "dockerhub" members with
    | none => simp [ofJson?, hm, ha, endpoints, ← anonymous ha]
    | some value => simp [ofJson?, hm, ha, endpoints, account value ha]

end Document

/-- A file holds a document: it can be read, and is the JSON text of an object that describes the
document. -/
def Files.HoldsDocument (files : Files) (path : String) (document : Document) : Prop :=
  ∃ bytes members, files.read path = .ok bytes ∧
    Json.parse? (Utf8.decode bytes) = some (.object members) ∧ document.DescribedBy members

/-- Why a file holds no document. -/
inductive Files.LacksDocument (files : Files) (path : String) : Prop
  | unreadable (error : FileError) (read : files.read path = .error error)
  | notJson (bytes : List UInt8) (read : files.read path = .ok bytes)
      (unparsed : Json.parse? (Utf8.decode bytes) = none)
  | invalid (bytes : List UInt8) (value : Json) (read : files.read path = .ok bytes)
      (parsed : Json.parse? (Utf8.decode bytes) = some value)
      (undescribed : ∀ members (document : Document), value = .object members →
        ¬ document.DescribedBy members)

section Reading

variable {files : Files} {path : String} {document : Document}

theorem readDocument_eq_ok_iff :
    readDocument files path = .ok document ↔ files.HoldsDocument path document := by
  unfold readDocument Files.HoldsDocument
  constructor
  · intro h
    split at h
    next => cases h
    next bytes read =>
      split at h
      next => cases h
      next value parsed =>
        split at h
        next => cases h
        next document' described =>
          cases h
          cases value with
          | object members =>
            exact ⟨bytes, members, read, parsed, Document.ofJson?_object_eq_some_iff.mp described⟩
          | _ => cases described
  · rintro ⟨bytes, members, read, parsed, described⟩
    simp only [read, parsed, Document.ofJson?_object_eq_some_iff.mpr described]

theorem readDocument_eq_error_iff :
    (∃ error, readDocument files path = .error error) ↔ files.LacksDocument path := by
  unfold readDocument
  constructor
  · rintro ⟨error, h⟩
    split at h
    next error' read => exact .unreadable error' read
    next bytes read =>
      split at h
      next unparsed => exact .notJson bytes read unparsed
      next value parsed =>
        split at h
        next invalid =>
          refine .invalid bytes value read parsed ?_
          rintro members document rfl described
          cases invalid.symm.trans (Document.ofJson?_object_eq_some_iff.mpr described)
        next => cases h
  · intro lacks
    cases lacks with
    | unreadable error read => simp [read]
    | notJson bytes read unparsed => simp [read, unparsed]
    | invalid bytes value read parsed undescribed =>
      have none : Document.ofJson? value = none := by
        cases value with
        | object members =>
          rw [Option.eq_none_iff_forall_ne_some]
          intro document described
          exact undescribed members document rfl
            (Document.ofJson?_object_eq_some_iff.mp described)
        | _ => rfl
      simp [read, parsed, none]

/-- A file either holds a document or lacks one. -/
theorem lacksDocument_iff_not_holdsDocument :
    files.LacksDocument path ↔ ¬ ∃ document, files.HoldsDocument path document := by
  rw [← readDocument_eq_error_iff]
  simp only [← readDocument_eq_ok_iff]
  cases readDocument files path <;> simp

end Reading

/-- The first environment of an id. -/
def Document.First (document : Document) (id : Rat) (endpoint : Endpoint) : Prop :=
  ∃ earlier later, document.endpoints = earlier ++ endpoint :: later ∧ endpoint.id = id ∧
    ∀ other ∈ earlier, (other.id : Rat) ≠ id

theorem findEndpoint_eq_found_iff {document : Document} {id : Rat} {endpoint : Endpoint} :
    findEndpoint document.endpoints id = .found endpoint ↔ document.First id endpoint := by
  unfold findEndpoint
  split
  next found hf =>
    rw [Lookup.found.injEq]
    constructor
    · rintro rfl
      obtain ⟨same, earlier, later, split, others⟩ := List.find?_eq_some_iff_append.mp hf
      exact ⟨earlier, later, split, by simpa using same, by simpa using others⟩
    · rintro ⟨earlier, later, split, same, others⟩
      have first : document.endpoints.find? (fun e => (e.id : Rat) == id) = some endpoint :=
        List.find?_eq_some_iff_append.mpr
          ⟨by simpa using same, earlier, later, split, by simpa using others⟩
      exact Option.some.inj (hf.symm.trans first)
  next hf =>
    refine iff_of_false (by simp) ?_
    rintro ⟨earlier, later, split, same, _⟩
    have other := List.find?_eq_none.mp hf endpoint (by simp [split])
    exact other (by simpa using same)

theorem findEndpoint_eq_unknown_iff {document : Document} {id : Rat} :
    (∃ reason, findEndpoint document.endpoints id = .unknown reason) ↔
      ∀ endpoint ∈ document.endpoints, (endpoint.id : Rat) ≠ id := by
  unfold findEndpoint
  split
  next found hf =>
    refine iff_of_false (by simp) fun others => ?_
    exact others found (List.mem_of_find?_eq_some hf) (by simpa using List.find?_some hf)
  next hf => exact iff_of_true ⟨_, rfl⟩ (by simpa using hf)

namespace Store

/-- A store that fails at every question, and for the same reason. -/
structure Fails (store : Store) (reason : String) : Prop where
  endpoint : ∀ id, store.endpoint id = .failed reason
  credentials : store.credentials = .error reason

/-- A store that answers from a document. It does not know an environment just if the document has
none of its id. -/
structure Serves (store : Store) (document : Document) : Prop where
  found : ∀ id endpoint, store.endpoint id = .found endpoint ↔ document.First id endpoint
  unknown : ∀ id, (∃ reason, store.endpoint id = .unknown reason) ↔
    ∀ endpoint ∈ document.endpoints, (endpoint.id : Rat) ≠ id
  answered : ∀ id, (∃ endpoint, store.endpoint id = .found endpoint) ∨
    ∃ reason, store.endpoint id = .unknown reason
  credentials : store.credentials = .ok document.credentials

section OfFile

variable {files : Files} {path : String}

theorem ofFile_fails (h : files.LacksDocument path) :
    ∃ reason, (ofFile files path).Fails reason := by
  obtain ⟨error, unread⟩ := readDocument_eq_error_iff.mpr h
  exact ⟨error.message, by simp [ofFile, unread], by simp [ofFile, unread]⟩

theorem ofFile_serves {document : Document} (h : files.HoldsDocument path document) :
    (ofFile files path).Serves document := by
  have read := readDocument_eq_ok_iff.mpr h
  have endpoint (id : Rat) :
      (ofFile files path).endpoint id = findEndpoint document.endpoints id := by
    simp [ofFile, read]
  constructor
  · intro id endpoint'
    rw [endpoint, findEndpoint_eq_found_iff]
  · intro id
    rw [endpoint, findEndpoint_eq_unknown_iff]
  · intro id
    rw [endpoint]
    unfold findEndpoint
    split <;> simp
  · simp [ofFile, read]

theorem ofFile_fails_or_serves (files : Files) (path : String) :
    (∃ reason, (ofFile files path).Fails reason) ∨
      ∃ document, files.HoldsDocument path document ∧ (ofFile files path).Serves document := by
  by_cases h : ∃ document, files.HoldsDocument path document
  · obtain ⟨document, holds⟩ := h
    exact Or.inr ⟨document, holds, ofFile_serves holds⟩
  · exact Or.inl (ofFile_fails (lacksDocument_iff_not_holdsDocument.mpr h))

end OfFile

end Store

theorem Refusal.message_of_credentialsUnavailable_iff {refusal : Refusal} :
    refusal.message = "Unable to retrieve DockerHub details from the database" ↔
      ∃ reason, refusal = .credentialsUnavailable reason := by
  cases refusal with
  | registry failure => cases hk : failure.kind <;> simp [message, hk]
  | _ => simp [message]

/-- A question fails for want of the account only if the store has the environment. -/
theorem resolveStatus_credentialsUnavailable {store : Store} {access : Access} {id reason : String}
    {net : Network} {resolved : Resolved} (h : resolveStatus store access id net = some resolved)
    (refused : resolved.resolution = .refused (.credentialsUnavailable reason)) :
    (∃ id endpoint, store.endpoint id = .found endpoint) ∧ store.credentials = .error reason := by
  cases resolveStatus_ends h with
  | noAccount n endpoint other hid found loc none =>
    cases refused
    exact ⟨⟨n, endpoint, found⟩, none⟩
  | asked n endpoint credentials inquiry hid found loc account asked =>
    obtain ⟨failure, _, other⟩ := Resolution.ofOutcome_eq_refused_iff.mp refused
    cases other
  | _ => cases refused

/-- What a store does that reads its document from a file, as long as the file stays what it is. -/
structure Store.ReadsFile (store : Store) (files : Files) (path : String) : Prop where
  oneCase : files.LacksDocument path ↔ ¬ ∃ document, files.HoldsDocument path document
  fails : files.LacksDocument path → ∃ reason, store.Fails reason
  serves : ∀ document, files.HoldsDocument path document → store.Serves document
  known : ∀ id reason, store.endpoint id = .unknown reason →
    ∃ document, files.HoldsDocument path document
  account : ∀ access id net resolved refusal, resolveStatus store access id net = some resolved →
    resolved.resolution = .refused refusal →
    refusal.message ≠ "Unable to retrieve DockerHub details from the database"

/-- A store fails at all questions alike when its file holds no document, and otherwise says what
the document says. That an environment is not known is never for want of a document, and no question
finds an environment and then no account. -/
theorem Store.ofFile_readsFile (files : Files) (path : String) :
    (ofFile files path).ReadsFile files path where
  oneCase := lacksDocument_iff_not_holdsDocument
  fails := ofFile_fails
  serves _ := ofFile_serves
  known id reason unknown := by
    rcases ofFile_fails_or_serves files path with ⟨failure, fails⟩ | ⟨document, holds, _⟩
    · cases (fails.endpoint id).symm.trans unknown
    · exact ⟨document, holds⟩
  account access id net resolved refusal h refused message := by
    obtain ⟨reason, rfl⟩ := Refusal.message_of_credentialsUnavailable_iff.mp message
    obtain ⟨⟨n, endpoint, found⟩, none⟩ := resolveStatus_credentialsUnavailable h refused
    rcases ofFile_fails_or_serves files path with ⟨failure, fails⟩ | ⟨document, _, serves⟩
    · cases (fails.endpoint n).symm.trans found
    · cases serves.credentials.symm.trans none

/-- A file with two environments of one id, and no account. -/
def Files.twins : Files :=
  ({} : Files).write "data.json" (Utf8.encode ("\x7b\"endpoints\":[" ++
    "\x7b\"id\":7,\"name\":\"first\",\"url\":\"unix://first\",\"type\":\"docker\"\x7d," ++
    "\x7b\"id\":7,\"name\":\"second\",\"url\":\"unix://second\",\"type\":\"docker\"\x7d]\x7d"))

theorem Store.ofFile_readsFile_twins : ∃ document,
    Files.twins.HoldsDocument "data.json" document ∧ document.endpoints.length = 2 ∧
    (ofFile .twins "data.json").ReadsFile .twins "data.json" ∧
    (ofFile .twins "data.json").endpoint 7 =
      .found ⟨7, "first", "unix://first", .docker, []⟩ ∧
    (ofFile .twins "data.json").credentials = .ok .anonymous ∧
    (∃ reason, (ofFile .twins "data.json").endpoint 8 = .unknown reason) ∧
    Files.twins.LacksDocument "other.json" ∧
    ∃ reason, (ofFile .twins "other.json").Fails reason := by
  have read : (readDocument .twins "data.json").toOption =
      some ⟨[⟨7, "first", "unix://first", .docker, []⟩,
        ⟨7, "second", "unix://second", .docker, []⟩], .anonymous⟩ := by
    decide +kernel
  have missing : Files.twins.LacksDocument "other.json" :=
    .unreadable .missing (by decide +kernel)
  have reads := ofFile_readsFile .twins "data.json"
  cases h : readDocument .twins "data.json" with
  | error error => simp [h, Except.toOption] at read
  | ok document =>
    have holds := readDocument_eq_ok_iff.mp h
    rw [h] at read
    cases Option.some.inj read
    have serves := reads.serves _ holds
    refine ⟨_, holds, rfl, reads, (serves.found _ _).mpr ⟨[], _, rfl, by norm_num, by simp⟩,
      serves.credentials, (serves.unknown 8).mpr (by simp), missing,
      (ofFile_readsFile .twins "other.json").fails missing⟩

end PullQuota
