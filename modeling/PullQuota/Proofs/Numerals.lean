import PullQuota.Proofs.Lexemes
import Mathlib.Data.List.DropRight

/-!
The text of any number is one number of JSON, however it is laid out. What it is read as is not told
here: for counts it is the number itself, for others the nearest to its digits.
-/

namespace PullQuota

namespace Number

theorem length_decimalDigits_pos (n : Nat) : 0 < (decimalDigits n).length :=
  List.length_pos_iff.mpr Nat.toDigits_ne_nil

theorem lt_ten_pow_length_decimalDigits (n : Nat) : n < 10 ^ (decimalDigits n).length :=
  (Nat.length_toDigits_le_iff (by decide) (length_decimalDigits_pos n)).mp le_rfl

theorem ten_pow_length_decimalDigits_le {n : Nat} (pos : 0 < n) :
    10 ^ ((decimalDigits n).length - 1) ≤ n := by
  by_contra less
  rcases Nat.eq_zero_or_pos ((decimalDigits n).length - 1) with one | more
  · rw [one] at less
    omega
  · have := (Nat.length_toDigits_le_iff (b := 10) (by decide) more).mpr (not_le.mp less)
    have := length_decimalDigits_pos n
    simp only [decimalDigits] at *
    omega

section Shortest

variable {q : Rat}

theorem natCast_floor_toNat_le {r : Rat} (hr : 0 ≤ r) : (r.floor.toNat : Rat) ≤ r := by
  have nonneg : 0 ≤ r.floor := Rat.le_floor_iff.mpr (by exact_mod_cast hr)
  rw [← Int.cast_natCast, Int.toNat_of_nonneg nonneg]
  exact Rat.le_floor_iff.mp le_rfl

theorem lt_natCast_floor_toNat_add_one {r : Rat} (hr : 0 ≤ r) : r < (r.floor.toNat + 1 : ℕ) := by
  have nonneg : 0 ≤ r.floor := Rat.le_floor_iff.mpr (by exact_mod_cast hr)
  rw [← Int.cast_natCast, Nat.cast_add, Int.toNat_of_nonneg nonneg]
  exact_mod_cast Rat.lt_floor_add_one r

/-- The first digit that is not zero stands just before the decimal point, or further right. -/
theorem ten_zpow_decimalPoint_le (hq : 0 < q) : (10 : Rat) ^ (decimalPoint q - 1) ≤ q := by
  unfold decimalPoint
  split
  next one =>
    have whole : 0 < q.floor.toNat := by
      have := Rat.le_floor_iff.mpr (show ((1 : Int) : Rat) ≤ q by exact_mod_cast one)
      omega
    have places := length_decimalDigits_pos q.floor.toNat
    calc (10 : Rat) ^ (((decimalDigits q.floor.toNat).length : Int) - 1)
        = ((10 ^ ((decimalDigits q.floor.toNat).length - 1) : ℕ) : Rat) := by
          rw [← Int.natCast_pred_of_pos places, zpow_natCast, Nat.cast_pow, Nat.cast_ofNat]
      _ ≤ q.floor.toNat := by exact_mod_cast ten_pow_length_decimalDigits_le whole
      _ ≤ q := natCast_floor_toNat_le hq.le
  next =>
    extract_lets point
    split
    next fits => rwa [add_sub_cancel_right]
    next =>
      -- The inverse has as many digits before its point as there are places here behind it.
      have inverse : q⁻¹ ≤ (10 : Rat) ^ ((decimalDigits q⁻¹.floor.toNat).length : Int) := by
        refine (lt_natCast_floor_toNat_add_one (inv_pos.mpr hq).le).le.trans ?_
        rw [zpow_natCast]
        exact_mod_cast lt_ten_pow_length_decimalDigits q⁻¹.floor.toNat
      have exponent : point - 1 = -((decimalDigits q⁻¹.floor.toNat).length : Int) := by omega
      rw [exponent, zpow_neg]
      exact inv_le_of_inv_le₀ hq inverse

theorem onGrid_pos {grid : Rat} {digits : Nat} (hq : 0 < q) (h : onGrid q grid = some digits) :
    0 < digits := by
  have value : roundBinary (digits * grid) = q := by
    unfold onGrid at h
    extract_lets low rest near far at h
    split at h
    next read => rwa [← Option.some.inj h]
    next =>
      split at h
      next read => rwa [← Option.some.inj h]
      next => cases h
  rcases Nat.eq_zero_or_pos digits with rfl | pos
  · rw [Nat.cast_zero, zero_mul, roundBinary, if_pos rfl] at value
    exact absurd value hq.ne
  · exact pos

theorem shortestFrom_pos (hq : 0 < q) {point : Int} {more count : Nat}
    (low : (10 : Rat) ^ (point - (count + more : Nat)) ≤ q) :
    0 < (shortestFrom q point more count).1 := by
  induction more generalizing count with
  | zero =>
    -- The digits are cut off here, but the number reaches as far as the last of them.
    have grid : (0 : Rat) < 10 ^ (point - count) := by positivity
    have one : ((1 : Int) : Rat) ≤ q / 10 ^ (point - count) := by
      rw [Int.cast_one, le_div_iff₀ grid, one_mul]
      exact low
    have floor := Rat.le_floor_iff.mpr one
    rw [shortestFrom]
    omega
  | succ more ih =>
    unfold shortestFrom
    split
    next digits found => exact onGrid_pos hq found
    next =>
      have same : count + 1 + more = count + (more + 1) := by omega
      exact ih (same ▸ low)

end Shortest

end Number

namespace Json

/-- A text that is read as a number without a sign, wherever it ends. -/
def IsMagnitude (cs : List Char) : Prop :=
  ∀ negative, ∃ n, ∀ rest, EndsNumber rest → readMagnitude negative (cs ++ rest) = some (n, rest)

section Parts

variable {whole digits : List Char} {rest : List Char}

theorem readFraction_append (digit : ∀ d ∈ digits, d.isDigit = true) (nonempty : digits ≠ [])
    (ends : EndsDigits rest) : readFraction ('.' :: (digits ++ rest)) = some (digits, rest) := by
  rw [readFraction, readDigits_append digit ends, if_neg nonempty]

/-- An exponent is read whatever its sign is. -/
theorem readExponent_append {sign : Char} (signed : sign = '-' ∨ sign = '+')
    (digit : ∀ d ∈ digits, d.isDigit = true) (nonempty : digits ≠ []) (ends : EndsDigits rest) :
    readExponent ('e' :: sign :: (digits ++ rest)) =
      some (if sign = '-' then -(decimalValue digits : Int) else decimalValue digits, rest) := by
  rcases signed with rfl | rfl <;>
    simp [readExponent, readSign, readDigits_append digit ends, nonempty]

variable {negative : Bool} {cs after behind : List Char} {fraction : List Char} {exponent : Int}

theorem readMagnitude_of_parts (first : readWhole cs = some (whole, after))
    (second : readFraction after = some (fraction, behind))
    (third : readExponent behind = some (exponent, rest)) :
    readMagnitude negative cs = some (Number.ofDecimal negative (decimalValue (whole ++ fraction))
      (exponent - fraction.length), rest) := by
  simp [readMagnitude, first, second, third]

end Parts

/-- A whole part that is read wherever its digits end. -/
def IsWhole (whole : List Char) : Prop :=
  ∀ rest, EndsDigits rest → readWhole (whole ++ rest) = some (whole, rest)

theorem isWhole_zero : IsWhole ['0'] :=
  fun _ _ => rfl

theorem isWhole_digits {digits : List Char} (digit : ∀ d ∈ digits, d.isDigit = true)
    (nonempty : digits ≠ []) (head : digits.head? ≠ some '0') : IsWhole digits :=
  fun _ ends => readWhole_append digit nonempty head ends

section Layouts

variable {whole fraction digits : List Char} {sign : Char}

theorem endsDigits_cons {c : Char} (other : c.isDigit = false) (cs : List Char) :
    EndsDigits (c :: cs) := by
  rintro d first
  cases Option.some.inj first
  exact other

theorem IsWhole.isMagnitude (h : IsWhole whole) : IsMagnitude whole := fun _ =>
  ⟨_, fun _ ends => readMagnitude_of_parts (h _ ends.digits) (readFraction_of_ends ends)
    (readExponent_of_ends ends)⟩

theorem IsWhole.isMagnitude_fraction (h : IsWhole whole)
    (digit : ∀ d ∈ fraction, d.isDigit = true) (nonempty : fraction ≠ []) :
    IsMagnitude (whole ++ '.' :: fraction) := by
  intro negative
  refine ⟨Number.ofDecimal negative (decimalValue (whole ++ fraction)) (0 - fraction.length),
    fun rest ends => ?_⟩
  rw [List.append_assoc, List.cons_append]
  exact readMagnitude_of_parts (h _ (endsDigits_cons rfl _))
    (readFraction_append digit nonempty ends.digits) (readExponent_of_ends ends)

theorem IsWhole.isMagnitude_exponent (h : IsWhole whole)
    (fractional : ∀ d ∈ fraction, d.isDigit = true) (signed : sign = '-' ∨ sign = '+')
    (digit : ∀ d ∈ digits, d.isDigit = true) (nonempty : digits ≠ []) :
    IsMagnitude (whole ++ (if fraction = [] then [] else '.' :: fraction) ++
      'e' :: sign :: digits) := by
  intro negative
  refine ⟨Number.ofDecimal negative (decimalValue (whole ++ fraction))
    ((if sign = '-' then -(decimalValue digits : Int) else decimalValue digits) - fraction.length),
    fun rest ends => ?_⟩
  have ended := readExponent_append signed digit nonempty ends.digits
  rw [List.append_assoc, List.append_assoc, List.cons_append, List.cons_append]
  split
  next none =>
    subst none
    exact readMagnitude_of_parts (h _ (endsDigits_cons rfl _)) rfl ended
  next some =>
    rw [List.cons_append]
    exact readMagnitude_of_parts (h _ (endsDigits_cons rfl _))
      (readFraction_append fractional some (endsDigits_cons rfl _)) ended

/-- Digits around a decimal point are read wherever the point stands. -/
theorem isMagnitude_layOut (digit : ∀ d ∈ digits, d.isDigit = true) (nonempty : digits ≠ [])
    (head : digits.head? ≠ some '0') (point : Int) : IsMagnitude (Number.layOut digits point) := by
  have zero (n : Nat) : ∀ d ∈ Number.zeros n, d.isDigit = true := by
    intro d mem
    rw [List.eq_of_mem_replicate mem]
    rfl
  have taken {n : Nat} (some : 0 < n) : IsWhole (digits.take n) := by
    refine isWhole_digits (fun d mem => digit d (List.mem_of_mem_take mem)) ?_ ?_
    · simp [nonempty, some.ne']
    · rwa [List.head?_take, if_neg some.ne']
  have dropped (n : Nat) : ∀ d ∈ digits.drop n, d.isDigit = true :=
    fun d mem => digit d (List.mem_of_mem_drop mem)
  unfold Number.layOut
  extract_lets count exponent fraction
  split
  next =>
    refine (isWhole_digits (List.forall_mem_append.mpr ⟨digit, zero _⟩) ?_ ?_).isMagnitude
    · simp [nonempty]
    · rwa [List.head?_append_of_ne_nil _ nonempty]
  split
  next within =>
    refine (taken (by omega)).isMagnitude_fraction (dropped _) ?_
    rw [Ne, List.drop_eq_nil_iff]
    omega
  split
  next =>
    refine isWhole_zero.isMagnitude_fraction (List.forall_mem_append.mpr ⟨zero _, digit⟩) ?_
    simp [nonempty]
  next =>
    refine (taken Nat.one_pos).isMagnitude_exponent (dropped 1) ?_
      (fun d => isDigit_of_mem_decimalDigits) Nat.toDigits_ne_nil
    split
    · exact Or.inl rfl
    · exact Or.inr rfl

theorem isMagnitude_decimalDigits (n : Nat) : IsMagnitude (decimalDigits n) :=
  IsWhole.isMagnitude fun _ => readWhole_decimalDigits n

/-- The shortest digits of a positive number are not all zeros. -/
theorem isMagnitude_positiveText {q : Rat} (hq : 0 < q) :
    IsMagnitude (Number.positiveText q) := by
  have pos : 0 < (Number.shortestFrom q (Number.decimalPoint q) 17 1).1 := by
    refine Number.shortestFrom_pos hq (le_trans ?_ (Number.ten_zpow_decimalPoint_le hq))
    exact zpow_le_zpow_right₀ (by norm_num) (by omega)
  unfold Number.positiveText
  generalize Number.shortestFrom q (Number.decimalPoint q) 17 1 = text at pos ⊢
  obtain ⟨shortest, exponent⟩ := text
  have head : (decimalDigits shortest).head? ≠ some '0' := decimalDigits_head_ne_zero pos
  have some : decimalDigits shortest ≠ [] := Nat.toDigits_ne_nil
  obtain ⟨ending, digits⟩ := List.rdropWhile_prefix (· == '0') (decimalDigits shortest)
  have nonempty : (decimalDigits shortest).rdropWhile (· == '0') ≠ [] := by
    intro none
    have zero := List.rdropWhile_eq_nil_iff.mp none _ (List.head_mem some)
    rw [List.head?_eq_some_head some, beq_iff_eq.mp zero] at head
    exact head rfl
  refine isMagnitude_layOut (fun d mem => ?_) nonempty ?_ _
  · refine isDigit_of_mem_decimalDigits (n := shortest) ?_
    rw [← digits]
    exact List.mem_append_left _ mem
  · rwa [← digits, List.head?_append_of_ne_nil _ nonempty] at head

/-- The text of a finite number is a number of JSON, wherever it ends. -/
theorem exists_readNumber_finiteText (q : Rat) : ∃ n, ∀ rest, EndsNumber rest →
    readNumber (Number.finiteText q ++ rest) = some (n, rest) := by
  obtain ⟨cs, text, reads⟩ : ∃ cs,
      Number.finiteText q = (if q < 0 then ['-'] else []) ++ cs ∧ IsMagnitude cs := by
    unfold Number.finiteText
    split
    next => exact ⟨_, rfl, isMagnitude_decimalDigits _⟩
    next large =>
      refine ⟨_, rfl, isMagnitude_positiveText ?_⟩
      have nonzero : q ≠ 0 := by
        rintro rfl
        exact large (by decide)
      unfold magnitude
      split
      next negative => linarith
      next nonneg => exact lt_of_le_of_ne (not_lt.mp nonneg) nonzero.symm
  rw [text]
  split
  next => exact reads true
  next =>
    obtain ⟨n, read⟩ := reads false
    exact ⟨n, fun rest ends => readNumber_of_magnitude (read rest ends)⟩

end Layouts

end Json

end PullQuota
