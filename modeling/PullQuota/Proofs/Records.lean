import PullQuota.Proofs.Documents
import PullQuota.Proofs.Rereading

/-!
Which JSON values are accepted as a document, and that nothing of its entries is lost or changed.
-/

namespace PullQuota

namespace Number

theorem toCount?_eq_some_iff {number : Number} {n : Nat} :
    number.toCount? = some n ↔ number = .finite n ∧ n ≤ maxCount := by
  constructor
  · intro h
    cases number with
    | infinite negative => cases h
    | finite q =>
      simp only [toCount?] at h
      split at h
      next count =>
        obtain ⟨whole, nonneg, le⟩ := count
        have value : (q.num : Rat) = q := Rat.coe_int_num_of_den_eq_one whole
        have same : (n : Int) = q.num := by
          have := Option.some.inj h
          omega
        have cast : (n : Rat) = q := by
          rw [← value, ← same, Int.cast_natCast]
        exact ⟨by rw [cast], by omega⟩
      next => cases h
  · rintro ⟨rfl, le⟩
    rw [toCount?_natCast, if_pos le]

end Number

theorem Environment.ofName?_eq_some_iff {text : String} {environment : Environment} :
    ofName? text = some environment ↔ text = environment.name := by
  constructor
  · intro h
    have same := List.find?_some h
    exact (beq_iff_eq.mp same).symm
  · rintro rfl
    cases environment <;> rfl

namespace Json

/-- Two objects of the same members, whatever their order. -/
structure SameMembers (a b : Json) : Prop where
  left : a.isObject = true
  right : b.isObject = true
  members : ∀ name, a.get? name = b.get? name

theorem memberOf_filter (names : List String) (name : String) (members : List (String × Json)) :
    memberOf name (members.filter (!names.contains ·.1)) =
      if name ∈ names then none else memberOf name members := by
  induction members with
  | nil => simp [memberOf]
  | cons member rest ih =>
    rw [List.filter_cons]
    split
    next kept =>
      have unknown : member.1 ∉ names := by simpa using kept
      rw [memberOf_cons, memberOf_cons, ih]
      by_cases same : member.1 = name
      · subst same
        rw [if_pos rfl, if_pos rfl, if_neg unknown]
      · rw [if_neg same, if_neg same]
    next dropped =>
      have known : member.1 ∈ names := by simpa using dropped
      rw [memberOf_cons, ih]
      by_cases same : member.1 = name
      · subst same
        rw [if_pos known, if_pos known]
      · rw [if_neg same]

/-- The members of an object are those that are known, in whatever order, and others beside them. -/
structure Parts (known others members : List (String × Json)) : Prop where
  agree : ∀ member ∈ known, memberOf member.1 members = some member.2
  rest : others = members.filter (!(known.map (·.1)).contains ·.1)

namespace Parts

variable {known others members : List (String × Json)} (parts : Parts known others members)

include parts

/-- Known members that are taken to the front leave an object what it was. -/
theorem memberOf_append (name : String) :
    memberOf name (known ++ others) = memberOf name members := by
  have append : memberOf name (known ++ others) =
      (memberOf name known).or (memberOf name others) := by
    rw [memberOf, List.find?_append, Option.map_or]
    rfl
  have rest := memberOf_filter (known.map (·.1)) name members
  rw [append, parts.rest, rest]
  cases found : known.find? (·.1 == name) with
  | some member =>
    have same : member.1 = name := by simpa using List.find?_some found
    have mem := List.mem_of_find?_eq_some found
    rw [memberOf, found, Option.map_some, Option.some_or, ← same, parts.agree member mem]
  | none =>
    have unknown : name ∉ known.map (·.1) := by
      intro mem
      obtain ⟨member, hm, rfl⟩ := List.mem_map.mp mem
      exact List.find?_eq_none.mp found member hm (beq_self_eq_true _)
    rw [memberOf, found, Option.map_none, Option.none_or, if_neg unknown]

theorem append : Parts known others (known ++ others) := by
  constructor
  · intro member mem
    rw [parts.memberOf_append, parts.agree member mem]
  · have dropped : known.filter (!(known.map (·.1)).contains ·.1) = [] := by
      rw [List.filter_eq_nil_iff]
      intro member mem
      have name := List.mem_map_of_mem (f := (·.1)) mem
      simp only [List.contains_iff_mem.mpr name, Bool.not_true, Bool.false_eq_true, not_false_iff]
    rw [List.filter_append, dropped, List.nil_append, parts.rest, List.filter_filter]
    simp only [Bool.and_self]

theorem sameMembers : SameMembers (object members) (object (known ++ others)) :=
  ⟨rfl, rfl, fun name => (parts.memberOf_append name).symm⟩

end Parts

/-- A value records an environment: an object with a positive count as its id, with texts as its
name and address, and of one of the known kinds. -/
structure RecordsEndpoint (entry : Json) : Prop where
  id : ∃ n : Nat, 1 ≤ n ∧ n ≤ Number.maxCount ∧ entry.get? "id" = some (.number (.finite n))
  name : ∃ text, entry.get? "name" = some (.string text)
  url : ∃ text, entry.get? "url" = some (.string text)
  kind : ∃ environment : Environment, entry.get? "type" = some (.string environment.name)

/-- A value records an account. -/
structure RecordsAccount (account : Json) : Prop where
  authentication : ∃ flag, account.get? "authentication" = some (.bool flag)
  username : ∃ text, account.get? "username" = some (.string text)
  password : ∃ text, account.get? "password" = some (.string text)

/-- A value records a document. It may lack an account, but what it has in its place must be one. -/
structure RecordsDocument (value : Json) : Prop where
  endpoints : ∃ entries, value.get? "endpoints" = some (.array entries) ∧
    ∀ entry ∈ entries, entry.RecordsEndpoint
  account : ∀ account, value.get? "dockerhub" = some account → account.RecordsAccount

end Json

namespace Endpoint

/-- The members that every environment has. -/
def known (endpoint : Endpoint) : List (String × Json) :=
  [("id", .number (.finite endpoint.id)), ("name", .string endpoint.name),
    ("url", .string endpoint.url), ("type", .string endpoint.environment.name)]

variable {members : List (String × Json)} {entry : Json} {endpoint : Endpoint}

theorem ofJson?_object_eq_some_iff : ofJson? (.object members) = some endpoint ↔
    1 ≤ endpoint.id ∧ endpoint.id ≤ Number.maxCount ∧
      Json.Parts endpoint.known endpoint.extra members := by
  constructor
  · intro h
    simp only [ofJson?] at h
    split at h
    next id name url kind hi hn hu hk =>
      obtain ⟨n, count, h⟩ := Option.bind_eq_some_iff.mp h
      obtain ⟨environment, named, h⟩ := Option.bind_eq_some_iff.mp h
      obtain ⟨number, le⟩ := Number.toCount?_eq_some_iff.mp count
      have kind := Environment.ofName?_eq_some_iff.mp named
      split at h
      next => cases h
      next positive =>
        cases Option.some.inj h
        subst number kind
        refine ⟨Nat.one_le_iff_ne_zero.mpr positive, le, ?_, rfl⟩
        simp [known, hi, hn, hu, hk]
    next => cases h
  · rintro ⟨pos, le, known, rest⟩
    obtain ⟨n, name, url, environment, extra⟩ := endpoint
    simp only [Endpoint.known, List.forall_mem_cons] at known
    obtain ⟨id, hn, hu, hk, -⟩ := known
    have count : (Number.finite n).toCount? = some n :=
      Number.toCount?_eq_some_iff.mpr ⟨rfl, le⟩
    have named := Environment.ofName?_eq_some_iff.mpr (rfl : environment.name = _)
    have positive : n ≠ 0 := Nat.one_le_iff_ne_zero.mp pos
    simp only [ofJson?, id, hn, hu, hk, count, named, bind, Option.bind, if_neg positive]
    exact congrArg (fun others => some (Endpoint.mk n name url environment others)) rest.symm

theorem recordsEndpoint_of_ofJson? (h : ofJson? entry = some endpoint) : entry.RecordsEndpoint := by
  cases entry with
  | object members =>
    obtain ⟨pos, le, known, _⟩ := ofJson?_object_eq_some_iff.mp h
    simp only [Endpoint.known, List.forall_mem_cons] at known
    obtain ⟨id, name, url, kind, -⟩ := known
    exact ⟨⟨_, pos, le, id⟩, ⟨_, name⟩, ⟨_, url⟩, ⟨_, kind⟩⟩
  | _ => cases h

theorem exists_ofJson?_iff : (∃ endpoint, ofJson? entry = some endpoint) ↔
    entry.RecordsEndpoint := by
  constructor
  · rintro ⟨endpoint, h⟩
    exact recordsEndpoint_of_ofJson? h
  · rintro ⟨⟨n, pos, le, id⟩, ⟨name, hn⟩, ⟨url, hu⟩, ⟨environment, hk⟩⟩
    cases entry with
    | object members =>
      refine ⟨⟨n, name, url, environment, members.filter (!memberNames.contains ·.1)⟩,
        ofJson?_object_eq_some_iff.mpr ⟨pos, le, ?_, rfl⟩⟩
      simp only [Endpoint.known, List.forall_mem_cons, List.not_mem_nil, false_imp_iff,
        implies_true, and_true]
      exact ⟨id, hn, hu, hk⟩
    | _ => cases id

/-- An environment is written with all the members of its entry, and read as itself. -/
theorem sameMembers_of_ofJson? (h : ofJson? entry = some endpoint) :
    entry.SameMembers endpoint.toJson ∧ ofJson? endpoint.toJson = some endpoint := by
  cases entry with
  | object members =>
    obtain ⟨pos, le, parts⟩ := ofJson?_object_eq_some_iff.mp h
    exact ⟨parts.sameMembers, ofJson?_object_eq_some_iff.mpr ⟨pos, le, parts.append⟩⟩
  | _ => cases h

end Endpoint

namespace Credentials

/-- The members that every account has. -/
def known (credentials : Credentials) : List (String × Json) :=
  [("authentication", .bool credentials.authentication), ("username", .string credentials.username),
    ("password", .string credentials.password)]

variable {members : List (String × Json)} {account : Json} {credentials : Credentials}

theorem ofJson?_object_eq_some_iff : ofJson? (.object members) = some credentials ↔
    Json.Parts credentials.known credentials.extra members := by
  constructor
  · intro h
    simp only [ofJson?] at h
    split at h
    next flag name word hf hn hw =>
      cases Option.some.inj h
      refine ⟨?_, rfl⟩
      simp [known, hf, hn, hw]
    next => cases h
  · rintro ⟨known, rest⟩
    obtain ⟨flag, name, word, extra⟩ := credentials
    simp only [Credentials.known, List.forall_mem_cons] at known
    obtain ⟨hf, hn, hw, -⟩ := known
    simp only [ofJson?, hf, hn, hw]
    exact congrArg (fun others => some (Credentials.mk flag name word others)) rest.symm

theorem exists_ofJson?_iff : (∃ credentials, ofJson? account = some credentials) ↔
    account.RecordsAccount := by
  constructor
  · rintro ⟨credentials, h⟩
    cases account with
    | object members =>
      have known := (ofJson?_object_eq_some_iff.mp h).agree
      simp only [Credentials.known, List.forall_mem_cons] at known
      obtain ⟨flag, name, word, -⟩ := known
      exact ⟨⟨_, flag⟩, ⟨_, name⟩, ⟨_, word⟩⟩
    | _ => cases h
  · rintro ⟨⟨flag, hf⟩, ⟨name, hn⟩, ⟨word, hw⟩⟩
    cases account with
    | object members =>
      refine ⟨⟨flag, name, word, members.filter (!memberNames.contains ·.1)⟩,
        ofJson?_object_eq_some_iff.mpr ⟨?_, rfl⟩⟩
      simp only [Credentials.known, List.forall_mem_cons, List.not_mem_nil, false_imp_iff,
        implies_true, and_true]
      exact ⟨hf, hn, hw⟩
    | _ => cases hf

theorem sameMembers_of_ofJson? (h : ofJson? account = some credentials) :
    account.SameMembers credentials.toJson ∧ ofJson? credentials.toJson = some credentials := by
  cases account with
  | object members =>
    have parts := ofJson?_object_eq_some_iff.mp h
    exact ⟨parts.sameMembers, ofJson?_object_eq_some_iff.mpr parts.append⟩
  | _ => cases h

end Credentials

/-- All items give a result just if each gives one. -/
theorem exists_mapM_iff {α β : Type} {f : α → Option β} {items : List α} :
    (∃ results, items.mapM f = some results) ↔ ∀ item ∈ items, ∃ result, f item = some result := by
  simp only [mapM_eq_some_iff]
  induction items with
  | nil => simp
  | cons item rest ih =>
    rw [List.forall_mem_cons, ← ih]
    constructor
    · rintro ⟨results, h⟩
      cases results with
      | nil => cases h
      | cons result later =>
        obtain ⟨first, others⟩ := List.cons.inj h
        exact ⟨⟨result, first⟩, later, others⟩
    · rintro ⟨⟨result, first⟩, later, others⟩
      exact ⟨result :: later, by simp [first, others]⟩

theorem forall₂_of_mapM {α β : Type} {f : α → Option β} {items : List α} {results : List β}
    (h : items.map f = results.map some) :
    List.Forall₂ (fun item result => f item = some result) items results := by
  have same : List.Forall₂ Eq (items.map f) (results.map some) := by
    rw [List.forall₂_eq_eq_eq, h]
  rwa [List.forall₂_map_left_iff, List.forall₂_map_right_iff] at same

namespace Document

/-- A document keeps every entry of a value, in its order and with all its members, and its account
if it has one. -/
structure Keeps (document : Document) (value : Json) : Prop where
  entries : ∃ entries, value.get? "endpoints" = some (.array entries) ∧
    List.Forall₂ (fun entry endpoint => entry.SameMembers (Endpoint.toJson endpoint))
      entries document.endpoints
  account : ∀ account, value.get? "dockerhub" = some account →
    account.SameMembers document.credentials.toJson
  anonymous : value.get? "dockerhub" = none → document.credentials = .anonymous

variable {value : Json} {document : Document}

theorem recordsDocument_of_ofJson? (h : ofJson? value = some document) :
    value.RecordsDocument := by
  cases value with
  | object members =>
    obtain ⟨⟨entries, hm, read⟩, account, _⟩ := ofJson?_object_eq_some_iff.mp h
    have valid := exists_mapM_iff.mp ⟨_, mapM_eq_some_iff.mpr read⟩
    refine ⟨⟨entries, hm, fun entry mem => ?_⟩, fun value ha => ?_⟩
    · exact Endpoint.exists_ofJson?_iff.mp (valid entry mem)
    · exact Credentials.exists_ofJson?_iff.mp ⟨_, account value ha⟩
  | _ => cases h

theorem exists_ofJson?_of_recordsDocument (records : value.RecordsDocument) :
    ∃ document, ofJson? value = some document := by
  obtain ⟨⟨entries, hm, valid⟩, account⟩ := records
  obtain ⟨endpoints, read⟩ := exists_mapM_iff.mpr fun entry mem =>
    Endpoint.exists_ofJson?_iff.mpr (valid entry mem)
  have read := mapM_eq_some_iff.mp read
  cases value with
  | object members =>
    cases ha : Json.memberOf "dockerhub" members with
    | none =>
      exact ⟨⟨endpoints, .anonymous⟩, ofJson?_object_eq_some_iff.mpr
        ⟨⟨entries, hm, read⟩, by simp [ha], fun _ => rfl⟩⟩
    | some value =>
      obtain ⟨credentials, hc⟩ := Credentials.exists_ofJson?_iff.mpr (account value ha)
      exact ⟨⟨endpoints, credentials⟩, ofJson?_object_eq_some_iff.mpr
        ⟨⟨entries, hm, read⟩, by simp [ha, hc], by simp [ha]⟩⟩
  | _ => cases hm

theorem keeps_of_ofJson? (h : ofJson? value = some document) : document.Keeps value := by
  cases value with
  | object members =>
    obtain ⟨⟨entries, hm, read⟩, account, anonymous⟩ := ofJson?_object_eq_some_iff.mp h
    refine ⟨⟨entries, hm, (forall₂_of_mapM read).imp fun entry endpoint hr => ?_⟩,
      fun value ha => ?_, anonymous⟩
    · exact (Endpoint.sameMembers_of_ofJson? hr).1
    · exact (Credentials.sameMembers_of_ofJson? (account value ha)).1
  | _ => cases h

/-- A document is written as a value that records it, the anonymous account included. -/
theorem ofJson?_toJson_of_ofJson? (h : ofJson? value = some document) :
    ofJson? document.toJson = some document := by
  cases value with
  | object members =>
    obtain ⟨⟨entries, hm, read⟩, account, anonymous⟩ := ofJson?_object_eq_some_iff.mp h
    have again : ∀ endpoint ∈ document.endpoints,
        Endpoint.ofJson? endpoint.toJson = some endpoint := by
      intro endpoint mem
      have result : some endpoint ∈ entries.map Endpoint.ofJson? := by
        rw [read]
        exact List.mem_map_of_mem mem
      obtain ⟨entry, _, hr⟩ := List.mem_map.mp result
      exact (Endpoint.sameMembers_of_ofJson? hr).2
    have credentials : Credentials.ofJson? document.credentials.toJson =
        some document.credentials := by
      cases ha : Json.memberOf "dockerhub" members with
      | none => rw [anonymous ha]; rfl
      | some value => exact (Credentials.sameMembers_of_ofJson? (account value ha)).2
    refine ofJson?_object_eq_some_iff.mpr ⟨⟨_, rfl, ?_⟩, fun account ha => ?_, fun none => ?_⟩
    · rw [List.map_map]
      exact List.map_congr_left again
    · cases Option.some.inj ha
      exact credentials
    · cases none
  | _ => cases h

/-- A value gives a document just if it records one. The document has then all that the value
records, and is read again from what is written of it. -/
theorem reading_faithful (value : Json) :
    ((∃ document, ofJson? value = some document) ↔ value.RecordsDocument) ∧
      ∀ document, ofJson? value = some document →
        document.Keeps value ∧ ofJson? document.toJson = some document :=
  ⟨⟨fun ⟨_, h⟩ => recordsDocument_of_ofJson? h, exists_ofJson?_of_recordsDocument⟩,
    fun _ h => ⟨keeps_of_ofJson? h, ofJson?_toJson_of_ofJson? h⟩⟩

end Document

/-- A record with members out of order, and with members that mean nothing. -/
def Json.cluttered : Json :=
  .object [("version", .number (.finite (3 / 2))),
    ("endpoints", .array [.object [("type", .string "azure"), ("tags", .array [.null]),
      ("id", .number (.finite 9007199254740991)), ("url", .string ""), ("name", .string "far")]]),
    ("dockerhub", .object [("password", .string ""), ("note", .bool true),
      ("authentication", .bool true), ("username", .string "me")])]

/-- The same with nothing for an account, which is not the same as no account. -/
def Json.disowned : Json :=
  .object [("endpoints", .array []), ("dockerhub", .null)]

theorem Document.reading_faithful_cluttered :
    Json.cluttered.RecordsDocument ∧ ¬ Json.disowned.RecordsDocument ∧
      ∃ document, ofJson? .cluttered = some document ∧ document.Keeps .cluttered ∧
        ofJson? document.toJson = some document := by
  have read : ofJson? .cluttered =
      some ⟨[⟨9007199254740991, "far", "", .azure, [("tags", .array [.null])]⟩],
        ⟨true, "me", "", [("note", .bool true)]⟩⟩ := by
    decide +kernel
  have records := (reading_faithful .cluttered).1.mp ⟨_, read⟩
  have undocumented : ¬ Json.disowned.RecordsDocument := by
    intro disowned
    obtain ⟨document, h⟩ := (reading_faithful .disowned).1.mpr disowned
    cases h
  exact ⟨records, undocumented, _, read, (reading_faithful .cluttered).2 _ read⟩

end PullQuota
