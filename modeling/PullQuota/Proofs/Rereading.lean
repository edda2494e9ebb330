import PullQuota.Proofs.Numerals
import Mathlib.Data.List.Forall2

/-!
JSON texts that are written are read: any value as some value, and as itself if its numbers are
counts and its members have names of their own. What a member is read as does not depend on others.
-/

namespace PullQuota

/-- A number whose text is read back wherever the text ends. -/
def Number.Rereads (n : Number) : Prop :=
  ∀ rest, Json.EndsNumber rest → Json.readNumber (Json.numberChars n ++ rest) = some (n, rest)

theorem Number.rereads_natCast {n : Nat} (h : n ≤ maxCount) : (finite n).Rereads :=
  fun _ ends => Json.readNumber_natCast h ends

namespace Json

/-- A value that its text gives back: its numbers do, and no object has two members of one name. -/
inductive Rereads : Json → Prop
  | null : Rereads null
  | bool (value : Bool) : Rereads (bool value)
  | number (value : Number) (reads : value.Rereads) : Rereads (number value)
  | string (value : String) : Rereads (string value)
  | array (items : List Json) (reads : ∀ item ∈ items, Rereads item) : Rereads (array items)
  | object (members : List (String × Json)) (distinct : (members.map (·.1)).Nodup)
      (reads : ∀ member ∈ members, Rereads member.2) : Rereads (object members)

section Members

theorem foldl_put_of_nodup {known members : List (String × Json)}
    (distinct : ((known ++ members).map (·.1)).Nodup) :
    members.foldl (fun known member => put known member.1 member.2) known = known ++ members := by
  induction members generalizing known with
  | nil => simp
  | cons member rest ih =>
    have new : known.any (·.1 == member.1) = false := by
      refine List.any_eq_false.mpr fun other mem same => ?_
      rw [List.map_append, List.nodup_append] at distinct
      exact distinct.2.2 _ (List.mem_map_of_mem mem) _ List.mem_cons_self (beq_iff_eq.mp same)
    rw [List.foldl_cons, put, new]
    have next : ((known ++ [member] ++ rest).map (·.1)).Nodup := by simpa using distinct
    simpa using ih next

theorem ofMembers_of_nodup {members : List (String × Json)}
    (distinct : (members.map (·.1)).Nodup) : ofMembers members = object members :=
  congrArg object (@foldl_put_of_nodup [] members distinct)

variable {name : String} {value : Json} {known members : List (String × Json)}

theorem memberOf_cons (member : String × Json) (rest : List (String × Json)) :
    memberOf name (member :: rest) =
      if member.1 = name then some member.2 else memberOf name rest := by
  by_cases same : member.1 = name <;> simp [memberOf, same]

theorem memberOf_put : memberOf name (put known name value) = some value := by
  unfold put
  split
  next present =>
    induction known with
    | nil => cases present
    | cons member known ih =>
      rw [List.map_cons, memberOf_cons]
      by_cases same : member.1 = name
      · simp [same]
      · have later : known.any (·.1 == name) = true := by simpa [same] using present
        simpa [same] using ih later
  next absent =>
    have none : known.find? (·.1 == name) = none := by
      refine List.find?_eq_none.mpr fun member mem same => absent ?_
      exact List.any_eq_true.mpr ⟨member, mem, same⟩
    simp [memberOf, none]

theorem memberOf_put_of_ne {other : String} (ne : other ≠ name) :
    memberOf name (put known other value) = memberOf name known := by
  unfold put
  split
  next present =>
    clear present
    induction known with
    | nil => rfl
    | cons member known ih =>
      rw [List.map_cons, memberOf_cons, memberOf_cons, ih]
      by_cases same : member.1 = other
      · simp [same, ne]
      · simp [same]
  next => simp [memberOf, List.find?_append, ne]

theorem memberOf_foldl_put (absent : name ∉ members.map (·.1)) :
    memberOf name (members.foldl (fun known member => put known member.1 member.2) known) =
      memberOf name known := by
  induction members generalizing known with
  | nil => rfl
  | cons member members ih =>
    obtain ⟨first, others⟩ := not_or.mp (List.mem_cons.not.mp absent)
    rw [List.foldl_cons, ih others, memberOf_put_of_ne (Ne.symm first)]

/-- A member counts if no other of its name comes after it. -/
theorem get?_ofMembers {before after : List (String × Json)} (absent : name ∉ after.map (·.1)) :
    get? name (ofMembers (before ++ (name, value) :: after)) = some value := by
  rw [ofMembers, get?, List.foldl_append, List.foldl_cons, memberOf_foldl_put absent, memberOf_put]

end Members

section Values

theorem skipSpace_cons {c : Char} (h : isSpace c = false) (cs : List Char) :
    skipSpace (c :: cs) = c :: cs := by
  simp [skipSpace, h]

theorem ne_of_startsNumber {c d : Char} (h : c = '-' ∨ c.isDigit = true)
    (other : d ≠ '-' ∧ d.isDigit = false) : c ≠ d := by
  rintro rfl
  rcases h with rfl | digit
  · exact other.1 rfl
  · exact Bool.false_ne_true (other.2.symm.trans digit)

theorem isSpace_of_startsNumber {c : Char} (h : c = '-' ∨ c.isDigit = true) :
    isSpace c = false := by
  simp [isSpace, ne_of_startsNumber h]

theorem numberChars_head {n m : Number}
    (reads : ∀ rest, EndsNumber rest → readNumber (numberChars n ++ rest) = some (m, rest)) :
    ∃ c more, numberChars n = c :: more ∧ (c = '-' ∨ c.isDigit = true) := by
  have alone := reads [] (by simp [EndsNumber])
  rw [List.append_nil] at alone
  exact readNumber_head alone

/-- A value starts with no blank, and with nothing that ends an array. -/
theorem chars_head (value : Json) :
    ∃ c more, value.chars = c :: more ∧ isSpace c = false ∧ c ≠ ']' := by
  cases value with
  | null => exact ⟨_, _, rfl, by decide, by decide⟩
  | bool value => cases value <;> exact ⟨_, _, rfl, by decide, by decide⟩
  | string value => exact ⟨_, _, rfl, by decide, by decide⟩
  | array items => cases items <;> exact ⟨_, _, rfl, by decide, by decide⟩
  | object members => cases members <;> exact ⟨_, _, rfl, by decide, by decide⟩
  | number value =>
    cases value with
    | infinite negative => exact ⟨_, _, rfl, by decide, by decide⟩
    | finite q =>
      obtain ⟨read, reads⟩ := exists_readNumber_finiteText q
      obtain ⟨c, more, text, start⟩ := numberChars_head (n := .finite q) reads
      exact ⟨c, more, text, isSpace_of_startsNumber start, ne_of_startsNumber start (by decide)⟩

/-- The text of a value is read as a value, which is the same if nothing is lost in the text. Fuel
for each of its characters is enough. -/
def ReadsAs (value read : Json) : Prop :=
  ∀ fuel rest, value.chars.length ≤ fuel → EndsNumber rest →
    readValue fuel (value.chars ++ rest) = some (read, rest)

/-- Nothing is lost in the text of a value. -/
def ReadBack (value : Json) : Prop :=
  value.ReadsAs value

theorem readsAs_number {n m : Number}
    (reads : ∀ rest, EndsNumber rest → readNumber (numberChars n ++ rest) = some (m, rest)) :
    (number n).ReadsAs (number m) := by
  intro fuel rest enough ends
  obtain ⟨c, more, text, start⟩ := numberChars_head reads
  have ne {d : Char} := @ne_of_startsNumber c d start
  have read := reads rest ends
  rw [chars, text] at enough ⊢
  rw [text] at read
  obtain ⟨fuel, rfl⟩ := Nat.exists_eq_add_one.mpr (Nat.zero_lt_of_lt enough)
  rw [List.cons_append, readValue, skipSpace_cons (isSpace_of_startsNumber start)]
  dsimp only
  rw [if_neg (ne (by decide)), if_neg (ne (by decide)), if_neg (ne (by decide)),
    if_neg (ne (by decide)), if_neg (ne (by decide)), if_neg (ne (by decide)),
    ← List.cons_append, read, Option.map_some]

theorem readBack_null : ReadBack null := by
  intro fuel rest enough _
  obtain ⟨fuel, rfl⟩ := Nat.exists_eq_add_one.mpr (Nat.zero_lt_of_lt enough)
  simp [readValue, chars, skipSpace_cons, isSpace, dropWord]

theorem readBack_bool (b : Bool) : (bool b).ReadBack := by
  intro fuel rest enough _
  cases b <;>
  · obtain ⟨fuel, rfl⟩ := Nat.exists_eq_add_one.mpr (Nat.zero_lt_of_lt enough)
    simp [readValue, chars, skipSpace_cons, isSpace, dropWord]

theorem readBack_string (s : String) : (string s).ReadBack := by
  intro fuel rest enough _
  obtain ⟨fuel, rfl⟩ := Nat.exists_eq_add_one.mpr (Nat.zero_lt_of_lt enough)
  simp [readValue, chars, quote, skipSpace_cons, isSpace, readString_flatMap_escapeChar]

/-- After a value comes a comma or a bracket. -/
theorem ends_moreItems (items : List Json) (rest : List Char) :
    EndsNumber (moreItems items ++ rest) := by
  cases items <;> simp [EndsNumber, moreItems]

theorem ends_moreMembers (members : List (String × Json)) (rest : List Char) :
    EndsNumber (moreMembers members ++ rest) := by
  cases members <;> simp [EndsNumber, moreMembers]

section Steps

variable {item value : Json} {fuel : Nat} {cs more rest : List Char}

theorem readItems_last (read : readValue fuel cs = some (item, ']' :: rest)) :
    readItems (fuel + 1) cs = some ([item], rest) := by
  simp [readItems, read, skipSpace_cons, isSpace]

theorem readItems_next {items : List Json} (read : readValue fuel cs = some (item, ',' :: more))
    (others : readItems fuel more = some (items, rest)) :
    readItems (fuel + 1) cs = some (item :: items, rest) := by
  simp [readItems, read, skipSpace_cons, isSpace, others]

theorem quote_append (s : String) (rest : List Char) :
    quote s ++ rest = '"' :: (s.toList.flatMap escapeChar ++ '"' :: rest) := by
  simp [quote]

theorem readMembers_last {name : String} (read : readValue fuel cs = some (value, '}' :: rest)) :
    readMembers (fuel + 1) (quote name ++ ':' :: cs) = some ([(name, value)], rest) := by
  simp [quote_append, readMembers, skipSpace_cons, isSpace, readString_flatMap_escapeChar, read]

theorem readMembers_next {name : String} {members : List (String × Json)}
    (read : readValue fuel cs = some (value, ',' :: more))
    (others : readMembers fuel more = some (members, rest)) :
    readMembers (fuel + 1) (quote name ++ ':' :: cs) = some ((name, value) :: members, rest) := by
  simp [quote_append, readMembers, skipSpace_cons, isSpace, readString_flatMap_escapeChar, read,
    others]

end Steps

theorem readItems_chars {item read : Json} {items reads : List Json}
    (all : List.Forall₂ ReadsAs (item :: items) (read :: reads)) {fuel : Nat} (rest : List Char)
    (enough : (item.chars ++ moreItems items).length ≤ fuel) :
    readItems fuel (item.chars ++ (moreItems items ++ rest)) = some (read :: reads, rest) := by
  induction items generalizing item read reads fuel with
  | nil =>
    obtain ⟨first, none⟩ := List.forall₂_cons.mp all
    cases none
    simp only [moreItems, List.length_append, List.length_cons] at enough
    obtain ⟨fuel, rfl⟩ := Nat.exists_eq_add_one.mpr (by omega : 0 < fuel)
    exact readItems_last (first fuel _ (by omega) (ends_moreItems [] rest))
  | cons next items ih =>
    obtain ⟨first, others⟩ := List.forall₂_cons.mp all
    obtain ⟨readNext, reads, rfl⟩ : ∃ readNext more, reads = readNext :: more := by
      cases others with
      | cons => exact ⟨_, _, rfl⟩
    simp only [moreItems, List.length_append, List.length_cons] at enough
    obtain ⟨fuel, rfl⟩ := Nat.exists_eq_add_one.mpr (by omega : 0 < fuel)
    have later : readItems fuel (next.chars ++ (moreItems items ++ rest)) =
        some (readNext :: reads, rest) := by
      refine ih others ?_
      rw [List.length_append]
      omega
    have first := first fuel _ (by omega) (ends_moreItems (next :: items) rest)
    rw [moreItems, List.append_assoc] at first ⊢
    exact readItems_next first later

/-- A member is read under its name. -/
def MemberReadsAs (member read : String × Json) : Prop :=
  member.1 = read.1 ∧ member.2.ReadsAs read.2

theorem readMembers_chars {name : String} {value : Json} {read : String × Json}
    {members reads : List (String × Json)}
    (all : List.Forall₂ MemberReadsAs ((name, value) :: members) (read :: reads)) {fuel : Nat}
    (rest : List Char)
    (enough : (quote name ++ ':' :: (value.chars ++ moreMembers members)).length ≤ fuel) :
    readMembers fuel (quote name ++ ':' :: (value.chars ++ (moreMembers members ++ rest))) =
      some (read :: reads, rest) := by
  induction members generalizing name value read reads fuel with
  | nil =>
    obtain ⟨⟨same, first⟩, none⟩ := List.forall₂_cons.mp all
    cases none
    obtain ⟨_, read⟩ := read
    cases same
    have first : value.ReadsAs read := first
    simp only [moreMembers, List.length_append, List.length_cons] at enough
    obtain ⟨fuel, rfl⟩ := Nat.exists_eq_add_one.mpr (by omega : 0 < fuel)
    exact readMembers_last (first fuel _ (by omega) (ends_moreMembers [] rest))
  | cons next members ih =>
    obtain ⟨⟨same, first⟩, others⟩ := List.forall₂_cons.mp all
    obtain ⟨_, read⟩ := read
    cases same
    have first : value.ReadsAs read := first
    obtain ⟨readNext, reads, rfl⟩ : ∃ readNext more, reads = readNext :: more := by
      cases others with
      | cons => exact ⟨_, _, rfl⟩
    obtain ⟨name', value'⟩ := next
    simp only [moreMembers, List.cons_append, List.append_assoc, List.length_append,
      List.length_cons] at enough
    obtain ⟨fuel, rfl⟩ := Nat.exists_eq_add_one.mpr (by omega : 0 < fuel)
    have later : readMembers fuel (quote name' ++ ':' :: (value'.chars ++
        (moreMembers members ++ rest))) = some (readNext :: reads, rest) := by
      refine ih others ?_
      simp only [List.length_append, List.length_cons]
      omega
    have first := first fuel _ (by omega) (ends_moreMembers ((name', value') :: members) rest)
    simp only [moreMembers, List.cons_append, List.append_assoc] at first ⊢
    exact readMembers_next first later

theorem readsAs_array {items reads : List Json} (all : List.Forall₂ ReadsAs items reads) :
    (array items).ReadsAs (array reads) := by
  intro fuel rest enough _
  cases all with
  | nil =>
    obtain ⟨fuel, rfl⟩ := Nat.exists_eq_add_one.mpr (Nat.zero_lt_of_lt enough)
    simp [readValue, chars, skipSpace_cons, isSpace]
  | @cons item read items reads first others =>
    obtain ⟨fuel, rfl⟩ := Nat.exists_eq_add_one.mpr (Nat.zero_lt_of_lt enough)
    obtain ⟨c, more, text, space, bracket⟩ := item.chars_head
    have read : readItems fuel (item.chars ++ (moreItems items ++ rest)) = _ :=
      readItems_chars (.cons first others) rest (Nat.le_of_succ_le_succ enough)
    rw [text, List.cons_append] at read
    have shape : (array (item :: items)).chars ++ rest =
        '[' :: c :: (more ++ (moreItems items ++ rest)) := by
      simp [chars, text]
    rw [shape, readValue, skipSpace_cons (by decide)]
    dsimp only
    rw [if_neg (by decide), if_pos rfl, skipSpace_cons space]
    split
    next other => exact absurd (List.cons.inj other).1 bracket
    next => rw [read, Option.map_some]

/-- Of members of one name the last is read. -/
theorem readsAs_object {members reads : List (String × Json)}
    (all : List.Forall₂ MemberReadsAs members reads) :
    (object members).ReadsAs (ofMembers reads) := by
  intro fuel rest enough _
  cases all with
  | nil =>
    obtain ⟨fuel, rfl⟩ := Nat.exists_eq_add_one.mpr (Nat.zero_lt_of_lt enough)
    simp [readValue, chars, skipSpace_cons, isSpace, ofMembers]
  | @cons member read members reads first others =>
    obtain ⟨name, value⟩ := member
    obtain ⟨fuel, rfl⟩ := Nat.exists_eq_add_one.mpr (Nat.zero_lt_of_lt enough)
    have read : readMembers fuel
        (quote name ++ ':' :: (value.chars ++ (moreMembers members ++ rest))) = _ :=
      readMembers_chars (.cons first others) rest (by simpa [chars] using enough)
    rw [quote_append] at read
    simp [readValue, chars, quote, skipSpace_cons, isSpace, read]

theorem readBack_object {members : List (String × Json)}
    (distinct : (members.map (·.1)).Nodup) (reads : ∀ member ∈ members, member.2.ReadBack) :
    (object members).ReadBack := by
  have same : List.Forall₂ MemberReadsAs members members :=
    List.forall₂_same.mpr fun member mem => ⟨rfl, reads member mem⟩
  have read := readsAs_object same
  rw [ofMembers_of_nodup distinct] at read
  exact read

/-- The text of a value is read back. -/
theorem Rereads.readBack {value : Json} (h : value.Rereads) : value.ReadBack := by
  induction h with
  | null => exact readBack_null
  | bool value => exact readBack_bool value
  | number value reads => exact readsAs_number reads
  | string value => exact readBack_string value
  | array items _ ih => exact readsAs_array (List.forall₂_same.mpr ih)
  | object members distinct reads ih => exact readBack_object distinct ih

mutual

/-- The text of any value is read, though not always as that value: a number is rounded, and of
members of one name the last is kept. -/
theorem exists_readsAs : ∀ value : Json, ∃ read, value.ReadsAs read
  | null => ⟨null, readBack_null⟩
  | bool value => ⟨bool value, readBack_bool value⟩
  | number (.infinite _) => ⟨null, readBack_null⟩
  | number (.finite q) =>
    let ⟨read, reads⟩ := exists_readNumber_finiteText q
    ⟨number read, readsAs_number reads⟩
  | string value => ⟨string value, readBack_string value⟩
  | array items =>
    let ⟨reads, all⟩ := exists_readsAs_items items
    ⟨array reads, readsAs_array all⟩
  | object members =>
    let ⟨reads, all⟩ := exists_readsAs_members members
    ⟨ofMembers reads, readsAs_object all⟩

theorem exists_readsAs_items : ∀ items : List Json, ∃ reads, List.Forall₂ ReadsAs items reads
  | [] => ⟨[], .nil⟩
  | item :: items =>
    let ⟨read, first⟩ := exists_readsAs item
    let ⟨reads, others⟩ := exists_readsAs_items items
    ⟨read :: reads, .cons first others⟩

theorem exists_readsAs_members : ∀ members : List (String × Json),
    ∃ reads, List.Forall₂ MemberReadsAs members reads
  | [] => ⟨[], .nil⟩
  | (name, value) :: members =>
    let ⟨read, first⟩ := exists_readsAs value
    let ⟨reads, others⟩ := exists_readsAs_members members
    ⟨(name, read) :: reads, .cons ⟨rfl, first⟩ others⟩

end

theorem names_readsAs {members reads : List (String × Json)}
    (all : List.Forall₂ MemberReadsAs members reads) : members.map (·.1) = reads.map (·.1) := by
  induction all with
  | nil => rfl
  | cons first _ ih => exact congrArg₂ List.cons first.1 ih

/-- A member of an object is read back, whatever stands before it and after it. -/
theorem exists_readsAs_member {before after : List (String × Json)} {name : String} {value : Json}
    (reads : value.ReadBack) (absent : name ∉ after.map (·.1)) :
    ∃ read, (object (before ++ (name, value) :: after)).ReadsAs read ∧
      get? name read = some value := by
  obtain ⟨earlier, first⟩ := exists_readsAs_members before
  obtain ⟨later, last⟩ := exists_readsAs_members after
  have all : List.Forall₂ MemberReadsAs (before ++ (name, value) :: after)
      (earlier ++ (name, value) :: later) :=
    List.rel_append first (.cons ⟨rfl, reads⟩ last)
  rw [names_readsAs last] at absent
  exact ⟨_, readsAs_object all, get?_ofMembers absent⟩

theorem ReadsAs.parse?_write {value read : Json} (h : value.ReadsAs read) :
    parse? value.write = some read := by
  have read := h (2 * value.chars.length + 2) [] (by omega) (by simp [EndsNumber])
  rw [List.append_nil] at read
  simp [parse?, write, read, skipSpace]

theorem parse?_write {value : Json} (h : value.Rereads) : parse? value.write = some value :=
  ReadsAs.parse?_write h.readBack

end Values

end Json

end PullQuota
