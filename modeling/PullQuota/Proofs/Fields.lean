import PullQuota.Proofs.Counting
import PullQuota.Proofs.Sending

/-!
What a header is read as: the values of a name together, the part before their first semicolon, and
the count that it writes.
-/

namespace PullQuota

namespace Headers

/-- Some field has this name, in whatever letter case. -/
def Has (headers : Headers) (name : FieldName) : Prop :=
  ∃ field ∈ headers, sameName field.1 name.text = true

/-- The values of a name, without the blanks at their ends, in their order. -/
def combined (headers : Headers) (name : FieldName) : String :=
  ", ".intercalate ((headers.filter (sameName ·.1 name.text)).map (strip isFieldSpace ·.2))

variable {headers : Headers} {name : FieldName} {value : String}

theorem values_eq_nil_iff : headers.values name.text = [] ↔ ¬ headers.Has name := by
  simp [values, Has]

theorem get?_eq_none_iff : headers.get? name = none ↔ ¬ headers.Has name := by
  rw [← values_eq_nil_iff, get?]
  cases headers.values name.text <;> simp

theorem get?_eq_some_iff :
    headers.get? name = some value ↔ headers.Has name ∧ headers.combined name = value := by
  rw [← not_not (a := headers.Has name), ← values_eq_nil_iff, get?,
    show headers.combined name = ", ".intercalate (headers.values name.text) from rfl]
  cases headers.values name.text <;> simp

/-- Nothing is what no field has. -/
theorem combined_of_not_has (h : ¬ headers.Has name) : headers.combined name = "" := by
  have none : headers.values name.text = [] := values_eq_nil_iff.mpr h
  exact congrArg ", ".intercalate none

end Headers

/-- The part of a value before its first semicolon. -/
def countPart (value : String) : String :=
  String.ofList (value.toList.takeWhile (· != ';'))

/-- What stands after a semicolon does not belong to the part before the first. -/
theorem countPart_append (part rest : String) :
    countPart (part ++ ";" ++ rest) = countPart part := by
  have stops : (";" ++ rest).toList.takeWhile (· != ';') = [] := by
    rw [String.toList_append]
    rfl
  unfold countPart
  rw [String.append_assoc, String.toList_append, List.takeWhile_append, stops]
  split
  next whole =>
    rw [List.append_nil, (List.takeWhile_prefix _).eq_of_length whole]
  next => rfl

/-- The count that the values of a name carry before their first semicolon. Without values, or with
an empty one, there is no text, and that writes none. -/
def Headers.Carries (headers : Headers) (name : FieldName) (n : Nat) : Prop :=
  Writes (countPart (headers.combined name)) n ∧ n ≤ Number.maxCount

section Reading

variable {headers : Headers} {name : FieldName}

theorem readCount_of_combined_ne (h : headers.combined name ≠ "") :
    readCount headers name = (parseCount (countPart (headers.combined name))).elim
      (.error (.malformed (countPart (headers.combined name)))) .ok := by
  have has : headers.Has name := by
    by_contra none
    exact h (Headers.combined_of_not_has none)
  simp only [readCount, Headers.get?_eq_some_iff.mpr ⟨has, rfl⟩, h, if_false, countPart]
  cases parseCount _ <;> rfl

theorem readCount_of_combined_eq (h : headers.combined name = "") :
    readCount headers name = .error .missing := by
  by_cases has : headers.Has name
  · simp [readCount, Headers.get?_eq_some_iff.mpr ⟨has, h⟩]
  · simp [readCount, Headers.get?_eq_none_iff.mpr has]

theorem readCount_missing_iff :
    readCount headers name = .error .missing ↔
      ¬ headers.Has name ∨ headers.combined name = "" := by
  constructor
  · intro missing
    by_contra content
    obtain ⟨_, nonempty⟩ := not_or.mp content
    rw [readCount_of_combined_ne nonempty] at missing
    cases parsed : parseCount (countPart (headers.combined name)) <;> simp [parsed] at missing
  · rintro (none | empty)
    · exact readCount_of_combined_eq (Headers.combined_of_not_has none)
    · exact readCount_of_combined_eq empty

/-- An empty value writes no count. -/
theorem ne_empty_of_writes {value : String} {n : Nat} (h : Writes (countPart value) n) :
    value ≠ "" := by
  rintro rfl
  exact h.1 rfl

theorem readCount_ok_iff {n : Nat} :
    readCount headers name = .ok n ↔ headers.Carries name n := by
  constructor
  · intro read
    by_cases empty : headers.combined name = ""
    · simp [readCount_of_combined_eq empty] at read
    · rw [readCount_of_combined_ne empty] at read
      cases parsed : parseCount (countPart (headers.combined name)) with
      | none => simp [parsed] at read
      | some m =>
        rw [parsed] at read
        cases read
        exact parseCount_eq_some_iff.mp parsed
  · intro count
    rw [readCount_of_combined_ne (ne_empty_of_writes count.1), parseCount_eq_some_iff.mpr count]
    rfl

theorem readCount_malformed_iff {text : String} :
    readCount headers name = .error (.malformed text) ↔
      headers.combined name ≠ "" ∧ text = countPart (headers.combined name) ∧
        ∀ n, Writes text n → Number.maxCount < n := by
  constructor
  · intro malformed
    by_cases empty : headers.combined name = ""
    · simp [readCount_of_combined_eq empty] at malformed
    · rw [readCount_of_combined_ne empty] at malformed
      cases parsed : parseCount (countPart (headers.combined name)) with
      | some m => simp [parsed] at malformed
      | none =>
        rw [parsed] at malformed
        cases malformed
        exact ⟨empty, rfl, parseCount_eq_none_iff.mp parsed⟩
  · rintro ⟨nonempty, rfl, exceeds⟩
    rw [readCount_of_combined_ne nonempty, parseCount_eq_none_iff.mpr exceeds]
    rfl

end Reading

namespace Headers

/-- A header gives no count, for a cause and with a message. -/
def Faulty (headers : Headers) (name : FieldName) (cause : FailureCause) (message : String) :
    Prop :=
  ∃ fault, readCount headers name = .error fault ∧ fault.cause = cause ∧
    fault.message name = message

/-- What a header is read as: the values of its name together decide, and of them only what stands
before the first semicolon. -/
structure Read (headers : Headers) (name : FieldName) : Prop where
  missing : ∀ message, headers.Faulty name .missingHeader message ↔
    (¬ headers.Has name ∨ headers.combined name = "") ∧
      message = "Missing " ++ name.text ++ " header"
  count : ∀ n, readCount headers name = .ok n ↔
    Writes (countPart (headers.combined name)) n ∧ n ≤ Number.maxCount
  malformed : ∀ message, headers.Faulty name .malformedHeader message ↔
    headers.combined name ≠ "" ∧
      (∀ n, Writes (countPart (headers.combined name)) n → Number.maxCount < n) ∧
      message = "invalid integer \"" ++ countPart (headers.combined name) ++ "\""
  unread : ∀ (others : Headers) (part rest rest' : String),
    headers.combined name = part ++ ";" ++ rest → others.combined name = part ++ ";" ++ rest' →
      readCount others name = readCount headers name

variable {headers : Headers} {name : FieldName}

theorem faulty_missing_iff {message : String} :
    headers.Faulty name .missingHeader message ↔
      readCount headers name = .error .missing ∧
        message = "Missing " ++ name.text ++ " header" := by
  constructor
  · rintro ⟨fault, read, cause, rfl⟩
    cases fault with
    | missing => exact ⟨read, rfl⟩
    | malformed text => cases cause
  · rintro ⟨read, rfl⟩
    exact ⟨.missing, read, rfl, rfl⟩

theorem faulty_malformed_iff {message : String} :
    headers.Faulty name .malformedHeader message ↔
      ∃ text, readCount headers name = .error (.malformed text) ∧
        message = "invalid integer \"" ++ text ++ "\"" := by
  constructor
  · rintro ⟨fault, read, cause, rfl⟩
    cases fault with
    | missing => cases cause
    | malformed text => exact ⟨text, read, rfl⟩
  · rintro ⟨text, read, rfl⟩
    exact ⟨.malformed text, read, rfl, rfl⟩

/-- Of values that go on, only the part before the semicolon is read. -/
theorem readCount_congr {others : Headers} (nonempty : headers.combined name ≠ "")
    (nonempty' : others.combined name ≠ "")
    (same : countPart (others.combined name) = countPart (headers.combined name)) :
    readCount others name = readCount headers name := by
  rw [readCount_of_combined_ne nonempty, readCount_of_combined_ne nonempty', same]

theorem append_semicolon_ne_empty (part rest : String) : part ++ ";" ++ rest ≠ "" := by
  intro empty
  have none := congrArg String.toList empty
  simp at none

theorem read (headers : Headers) (name : FieldName) : headers.Read name where
  missing message := by rw [faulty_missing_iff, readCount_missing_iff]
  count n := readCount_ok_iff
  malformed message := by
    simp only [faulty_malformed_iff, readCount_malformed_iff]
    constructor
    · rintro ⟨text, ⟨nonempty, rfl, exceeds⟩, rfl⟩
      exact ⟨nonempty, exceeds, rfl⟩
    · rintro ⟨nonempty, exceeds, rfl⟩
      exact ⟨_, ⟨nonempty, rfl, exceeds⟩, rfl⟩
  unread others part rest rest' given given' := by
    refine readCount_congr ?_ ?_ ?_
    · exact given ▸ append_semicolon_ne_empty part rest
    · exact given' ▸ append_semicolon_ne_empty part rest'
    · rw [given, given', countPart_append, countPart_append]

end Headers

/-- An answer is told by its two headers: both give a count, or the first of them that gives none
is at fault. -/
structure Outcome.ToldBy (outcome : Outcome Quota) (headers : Headers) : Prop where
  done : ∀ quota, outcome = .done quota ↔ ∃ limit remaining : Nat,
    readCount headers limitField = .ok limit ∧ readCount headers remainingField = .ok remaining ∧
      quota = ⟨limit, remaining⟩
  failed : ∀ failure, outcome = .failed failure ↔
    (∃ fault, readCount headers limitField = .error fault ∧ failure = .badHeader limitField fault) ∨
      ∃ limit fault, readCount headers limitField = .ok limit ∧
        readCount headers remainingField = .error fault ∧
        failure = .badHeader remainingField fault
  unbroken : ∀ breakdown, outcome ≠ .broken breakdown

theorem toldBy_readQuota (headers : Headers) :
    (Outcome.ofExcept (readQuota headers)).ToldBy headers := by
  unfold readQuota
  cases hl : readCount headers limitField with
  | error fault => constructor <;> simp [Outcome.ofExcept, hl, eq_comm]
  | ok limit =>
    cases hr : readCount headers remainingField with
    | error fault => constructor <;> simp [Outcome.ofExcept, hl, hr, eq_comm]
    | ok remaining => constructor <;> simp [Outcome.ofExcept, hl, hr, eq_comm]

/-- Whatever the fields of an answer are, a name is read from all its values, up to the first
semicolon; and an answer of status 200 to the request for the limits is told by its two headers. -/
theorem fields_tell :
    (∀ (headers : Headers) (name : FieldName), headers.Read name) ∧
      ∀ (access : Access) (token : String) (net : Network) (response : Response)
        (attempt : Attempt),
        (net.start access.timeout).send (limitsRequest access.urls token) =
            some (.ok response, attempt) →
          response.status = 200 →
            ∃ ex, fetchLimits access token net = some ex ∧ ex.call.response? = some response ∧
              ex.outcome.ToldBy response.headers := by
  refine ⟨Headers.read, fun access token net response attempt delivered status => ?_⟩
  refine ⟨_, Network.exchange_of_ok delivered (readLimits_eq attempt response), rfl, ?_⟩
  simpa [status] using toldBy_readQuota response.headers

/-- An answer with blanks that only the count does without, in front of it and behind it, and with
a second value of a name. -/
def Response.verbose : Response where
  status := 200
  headers := [("RATELIMIT-limit", " \u00a00100 ;w=21600"), ("ratelimit-Remaining", "76"),
    ("RateLimit-Remaining", "\t;w=21600 ")]
  body := none

def Network.verbose : Network where
  replies := [.later ⟨.instant, true⟩ (.ok .verbose)]

/-- The comma between two values stands before the semicolon, so they are no count. -/
theorem fields_tell_verbose : ∃ ex, fetchLimits {} "pass" .verbose = some ex ∧
    ex.outcome = .failed (.badHeader remainingField (.malformed "76, ")) ∧
    ∀ others : Headers, others.combined remainingField = "76, ;w=1" →
      readCount others remainingField = .error (.malformed "76, ") := by
  obtain ⟨reads, tells⟩ := fields_tell
  obtain ⟨ex, h, _, told⟩ := tells {} "pass" .verbose .verbose _ rfl rfl
  have limit : readCount Response.verbose.headers limitField = .ok 100 := by decide +kernel
  have remaining :
      readCount Response.verbose.headers remainingField = .error (.malformed "76, ") := by
    decide +kernel
  have given : Response.verbose.headers.combined remainingField = "76, " ++ ";" ++ "w=21600" := by
    decide +kernel
  exact ⟨ex, h, (told.failed _).mpr (Or.inr ⟨100, _, limit, remaining, rfl⟩), fun others given' =>
    ((reads _ remainingField).unread others "76, " "w=21600" "w=1" given given').trans remaining⟩

end PullQuota
