import PullQuota.Json.Reader
import PullQuota.Json.Writer
import PullQuota.Proofs.Counting
import PullQuota.Proofs.Digits

/-!
The strings of JSON texts are read back, and so are the digits of their numbers.
-/

namespace PullQuota

namespace Json

section Quotes

theorem readEscape_control {c : Char} (control : c.toNat < 0x20) (rest : List Char) :
    readEscape (['u', '0', '0', Hex.lower (c.toNat / 16), Hex.lower (c.toNat % 16)] ++ rest) =
      some (c, rest) := by
  have unit : ((0 * 16 + 0) * 16 + c.toNat / 16) * 16 + c.toNat % 16 = c.toNat := by omega
  have read : readUnit? ('0' :: '0' :: Hex.lower (c.toNat / 16) :: Hex.lower (c.toNat % 16) ::
      rest) = some (c.toNat, rest) := by
    rw [readUnit?, show Hex.value? '0' = some 0 by decide, Hex.value?_lower _ (by omega),
      Hex.value?_lower _ (by omega)]
    exact congrArg (fun n => some (n, rest)) unit
  have single : pairUnit c.toNat rest = (c, rest) := by
    unfold pairUnit
    rw [if_neg (by omega), if_neg (by omega), Char.ofNat_toNat]
  simp only [List.cons_append, List.nil_append]
  rw [readEscape, read, Option.map_some]
  exact congrArg some single

/-- A character stands for itself, or its escape names it. -/
theorem escapeChar_cases (c : Char) :
    (escapeChar c = [c] ∧ c ≠ '"' ∧ c ≠ '\\' ∧ ¬ c.toNat < 0x20) ∨
      ∃ text, escapeChar c = '\\' :: text ∧ ∀ rest, readEscape (text ++ rest) = some (c, rest) := by
  unfold escapeChar
  split
  next h => subst h; exact Or.inr ⟨_, rfl, fun _ => rfl⟩
  next quote =>
    split
    next h => subst h; exact Or.inr ⟨_, rfl, fun _ => rfl⟩
    next backslash =>
      split
      next h => subst h; exact Or.inr ⟨_, rfl, fun _ => rfl⟩
      split
      next h => subst h; exact Or.inr ⟨_, rfl, fun _ => rfl⟩
      split
      next h => subst h; exact Or.inr ⟨_, rfl, fun _ => rfl⟩
      split
      next h => subst h; exact Or.inr ⟨_, rfl, fun _ => rfl⟩
      split
      next h => subst h; exact Or.inr ⟨_, rfl, fun _ => rfl⟩
      split
      next control => exact Or.inr ⟨_, rfl, readEscape_control control⟩
      next printed => exact Or.inl ⟨rfl, quote, backslash, printed⟩

theorem readQuoted_flatMap_escapeChar (cs rest : List Char) {fuel : Nat}
    (enough : cs.length < fuel) :
    readQuoted fuel (cs.flatMap escapeChar ++ '"' :: rest) = some (cs, rest) := by
  induction cs generalizing fuel with
  | nil =>
    obtain ⟨fuel, rfl⟩ := Nat.exists_eq_add_one.mpr enough
    rfl
  | cons c cs ih =>
    obtain ⟨fuel, rfl⟩ := Nat.exists_eq_add_one.mpr (Nat.zero_lt_of_lt enough)
    have later := ih (Nat.lt_of_succ_lt_succ enough)
    rw [List.flatMap_cons, List.append_assoc]
    rcases escapeChar_cases c with ⟨plain, quote, backslash, printed⟩ | ⟨text, escaped, reads⟩
    · simp [plain, readQuoted, quote, backslash, printed, later]
    · simp [escaped, readQuoted, reads, later]

theorem length_le_length_flatMap_escapeChar (cs : List Char) :
    cs.length ≤ (cs.flatMap escapeChar).length := by
  induction cs with
  | nil => exact le_rfl
  | cons c cs ih =>
    have some : 1 ≤ (escapeChar c).length := by
      rcases escapeChar_cases c with ⟨plain, _⟩ | ⟨text, escaped, _⟩
      · simp [plain]
      · simp [escaped]
    rw [List.flatMap_cons, List.length_append, List.length_cons]
    omega

theorem readString_flatMap_escapeChar (s : String) (rest : List Char) :
    readString (s.toList.flatMap escapeChar ++ '"' :: rest) = some (s, rest) := by
  have length := length_le_length_flatMap_escapeChar s.toList
  have enough : s.toList.length < (s.toList.flatMap escapeChar ++ '"' :: rest).length + 1 := by
    rw [List.length_append]
    omega
  rw [readString, readQuoted_flatMap_escapeChar _ _ enough]
  exact congrArg (fun text => some (text, rest)) String.ofList_toList

end Quotes

section Digits

/-- A text with which a number does not go on. -/
def EndsNumber (rest : List Char) : Prop :=
  ∀ c ∈ rest.head?, c.isDigit = false ∧ c ≠ '.' ∧ c ≠ 'e' ∧ c ≠ 'E'

/-- A text with which digits do not go on. -/
def EndsDigits (rest : List Char) : Prop :=
  ∀ c ∈ rest.head?, c.isDigit = false

variable {rest : List Char}

theorem EndsNumber.digits (ends : EndsNumber rest) : EndsDigits rest :=
  fun c first => (ends c first).1

theorem readDigits_append {ds : List Char} (digits : ∀ d ∈ ds, d.isDigit = true)
    (ends : EndsDigits rest) : readDigits (ds ++ rest) = (ds, rest) := by
  rw [readDigits, List.takeWhile_append_of_pos digits, List.dropWhile_append_of_pos digits]
  cases rest with
  | nil => simp
  | cons c rest => simp [ends c rfl]

theorem readFraction_of_ends (ends : EndsNumber rest) : readFraction rest = some ([], rest) := by
  unfold readFraction
  split
  next => exact absurd rfl (ends '.' rfl).2.1
  next => rfl

theorem readExponent_of_ends (ends : EndsNumber rest) : readExponent rest = some (0, rest) := by
  cases rest with
  | nil => rfl
  | cons c rest =>
    obtain ⟨_, _, small, capital⟩ := ends c rfl
    simp [readExponent, small, capital]

theorem ofDecimal_natCast {n : Nat} (h : n ≤ Number.maxCount) :
    Number.ofDecimal false n 0 = .finite n := by
  have places : (decimalDigits n).length ≤ 16 := by
    refine (Nat.length_toDigits_le_iff (by decide) (by decide)).mpr (h.trans_lt ?_)
    decide
  unfold Number.ofDecimal
  dsimp only
  split
  next small =>
    rcases small with rfl | small
    · rfl
    · omega
  split
  next large => omega
  next =>
    have lt : n < 2 ^ 53 := h.trans_lt (by decide)
    simpa using Number.nearest_natCast lt

/-- A whole part is read that starts with no zero. -/
theorem readWhole_append {ds : List Char} (digits : ∀ d ∈ ds, d.isDigit = true)
    (nonempty : ds ≠ []) (head : ds.head? ≠ some '0') (ends : EndsDigits rest) :
    readWhole (ds ++ rest) = some (ds, rest) := by
  have read := readDigits_append digits ends
  unfold readWhole
  split
  next zero =>
    rw [← List.head?_append_of_ne_nil _ nonempty, zero] at head
    exact absurd rfl head
  next => rw [read, if_neg nonempty]

theorem readWhole_decimalDigits (n : Nat) (ends : EndsDigits rest) :
    readWhole (decimalDigits n ++ rest) = some (decimalDigits n, rest) := by
  rcases Nat.eq_zero_or_pos n with rfl | pos
  · rfl
  · exact readWhole_append (fun d => isDigit_of_mem_decimalDigits (n := n)) Nat.toDigits_ne_nil
      (decimalDigits_head_ne_zero pos) ends

theorem readMagnitude_natCast {n : Nat} (h : n ≤ Number.maxCount) (ends : EndsNumber rest) :
    readMagnitude false (decimalDigits n ++ rest) = some (.finite n, rest) := by
  simp [readMagnitude, readWhole_decimalDigits n ends.digits, readFraction_of_ends ends,
    readExponent_of_ends ends, decimalValue_decimalDigits, ofDecimal_natCast h]

/-- A number without a sign starts with a digit. -/
theorem readNumber_of_magnitude {cs : List Char} {read : Number × List Char}
    (h : readMagnitude false cs = some read) : readNumber cs = some read := by
  unfold readNumber
  split
  next => simp [readMagnitude, readWhole, readDigits] at h
  next => exact h

theorem readNumber_natCast {n : Nat} (h : n ≤ Number.maxCount) (ends : EndsNumber rest) :
    readNumber (Number.finiteText n ++ rest) = some (.finite n, rest) := by
  rw [Number.finiteText_natCast h]
  exact readNumber_of_magnitude (readMagnitude_natCast h ends)

theorem readNumber_head {cs : List Char} {n : Number} (h : readNumber cs = some (n, rest)) :
    ∃ c more, cs = c :: more ∧ (c = '-' ∨ c.isDigit = true) := by
  unfold readNumber at h
  split at h
  next more => exact ⟨'-', more, rfl, Or.inl rfl⟩
  next =>
    obtain ⟨⟨whole, after⟩, read, _⟩ := Option.bind_eq_some_iff.mp h
    unfold readWhole at read
    split at read
    next => exact ⟨'0', _, rfl, Or.inr rfl⟩
    next =>
      split at read
      next => cases read
      next some =>
        cases cs with
        | nil => exact absurd rfl some
        | cons c more =>
          refine ⟨c, more, rfl, Or.inr ?_⟩
          by_contra other
          exact some (by simp [readDigits, other])

end Digits

end Json

end PullQuota
