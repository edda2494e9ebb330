import PullQuota.Text.Count
import Mathlib.Data.Rat.Floor
import Mathlib.Algebra.Order.Field.Power
import Mathlib.Tactic.Linarith
import Mathlib.Tactic.Positivity

/-!
Rounding to binary64: where the exponent lies, what is exact, and that no count is reached from
outside of the counts.
-/

namespace PullQuota

theorem two_zpow_pos (e : Int) : (0 : Rat) < 2 ^ e := by positivity

theorem binaryUnit_pos (q : Rat) : 0 < binaryUnit q :=
  two_zpow_pos _

/-- The exponents of numerator and denominator leave two values for that of their quotient. -/
theorem two_zpow_log2_sub_bounds {q : Rat} (hq : 0 < q) :
    (2 : Rat) ^ ((q.num.natAbs.log2 : Int) - q.den.log2 - 1) < q ∧
      q < (2 : Rat) ^ ((q.num.natAbs.log2 : Int) - q.den.log2 + 1) := by
  have hnum : (q.num.natAbs : Rat) = q * q.den := by
    have hpos := Rat.num_pos.mpr hq
    rw [Rat.mul_den_eq_num, ← Int.cast_natCast, Int.natAbs_of_nonneg hpos.le]
  have hden : (0 : Rat) < q.den := by exact_mod_cast q.den_pos
  have hnumZero : q.num.natAbs ≠ 0 := by
    have := Rat.num_pos.mpr hq
    omega
  have numLow : (2 : Rat) ^ (q.num.natAbs.log2 : Int) ≤ q * q.den := by
    rw [← hnum]; exact_mod_cast Nat.log2_self_le hnumZero
  have numHigh : q * q.den < (2 : Rat) ^ ((q.num.natAbs.log2 : Int) + 1) := by
    rw [← hnum]; exact_mod_cast Nat.lt_log2_self (n := q.num.natAbs)
  have denLow : (2 : Rat) ^ (q.den.log2 : Int) ≤ q.den := by
    exact_mod_cast Nat.log2_self_le q.den_nz
  have denHigh : (q.den : Rat) < (2 : Rat) ^ ((q.den.log2 : Int) + 1) := by
    exact_mod_cast Nat.lt_log2_self (n := q.den)
  constructor
  · have heq : (2 : Rat) ^ (q.num.natAbs.log2 : Int) =
        2 ^ ((q.num.natAbs.log2 : Int) - q.den.log2 - 1) * 2 ^ ((q.den.log2 : Int) + 1) := by
      rw [← zpow_add₀ (by norm_num)]; congr 1; omega
    rw [heq] at numLow
    by_contra hle
    have := mul_lt_mul_of_pos_left denHigh (two_zpow_pos (q.num.natAbs.log2 - q.den.log2 - 1))
    have := mul_le_mul_of_nonneg_right (not_lt.mp hle) hden.le
    linarith
  · have heq : (2 : Rat) ^ ((q.num.natAbs.log2 : Int) + 1) =
        2 ^ ((q.num.natAbs.log2 : Int) - q.den.log2 + 1) * 2 ^ (q.den.log2 : Int) := by
      rw [← zpow_add₀ (by norm_num)]; congr 1; omega
    rw [heq] at numHigh
    by_contra hle
    have := mul_le_mul_of_nonneg_left denLow (two_zpow_pos (q.num.natAbs.log2 - q.den.log2 + 1)).le
    have := mul_le_mul_of_nonneg_right (not_lt.mp hle) hden.le
    linarith

theorem two_zpow_binaryExponent_le {q : Rat} (hq : 0 < q) : (2 : Rat) ^ binaryExponent q ≤ q := by
  simp only [binaryExponent]
  split
  next h => exact h
  next => exact (two_zpow_log2_sub_bounds hq).1.le

theorem lt_two_zpow_binaryExponent_add_one {q : Rat} (hq : 0 < q) :
    q < (2 : Rat) ^ (binaryExponent q + 1) := by
  simp only [binaryExponent]
  split
  next => exact (two_zpow_log2_sub_bounds hq).2
  next h => simpa using h

theorem le_binaryExponent {q : Rat} {e : Int} (hq : 0 < q) (h : (2 : Rat) ^ e ≤ q) :
    e ≤ binaryExponent q := by
  have := (zpow_lt_zpow_iff_right₀ (by norm_num : (1 : Rat) < 2)).mp
    (h.trans_lt (lt_two_zpow_binaryExponent_add_one hq))
  omega

theorem binaryExponent_lt {q : Rat} {e : Int} (hq : 0 < q) (h : q < (2 : Rat) ^ e) :
    binaryExponent q < e :=
  (zpow_lt_zpow_iff_right₀ (by norm_num : (1 : Rat) < 2)).mp
    ((two_zpow_binaryExponent_le hq).trans_lt h)

@[simp] theorem nearestEven_intCast (n : Int) : nearestEven n = n := by
  simp [nearestEven]

theorem le_nearestEven {q : Rat} {n : Int} (h : (n : Rat) ≤ q) : n ≤ nearestEven q := by
  have low : n ≤ q.floor := Rat.le_floor_iff.mpr h
  simp only [nearestEven]
  split
  · exact low
  · split
    · omega
    · split <;> omega

theorem magnitude_of_nonneg {q : Rat} (hq : 0 ≤ q) : magnitude q = q := by
  simp [magnitude, not_lt.mpr hq]

/-- The exponent of the distance of neighbouring values around the positive `q`. -/
def unitExponent (q : Rat) : Int :=
  max (binaryExponent q - 52) (-1074)

section Units

variable {q : Rat} {k : Int}

theorem roundBinary_of_pos (hq : 0 < q) :
    roundBinary q = nearestEven (q / binaryUnit q) * binaryUnit q := by
  simp only [roundBinary, if_neg hq.ne', magnitude_of_nonneg hq.le]

theorem two_zpow_eq_mul_binaryUnit (h : unitExponent q ≤ k) :
    ∃ n : Int, (2 : Rat) ^ k = n * binaryUnit q := by
  refine ⟨2 ^ (k - unitExponent q).toNat, ?_⟩
  have exponent : ((k - unitExponent q).toNat : Int) + unitExponent q = k := by omega
  calc (2 : Rat) ^ k = 2 ^ (((k - unitExponent q).toNat : Int) + unitExponent q) := by rw [exponent]
    _ = 2 ^ ((k - unitExponent q).toNat : Int) * binaryUnit q := zpow_add₀ (by norm_num) _ _
    _ = ((2 ^ (k - unitExponent q).toNat : Int) : Rat) * binaryUnit q := by
      rw [zpow_natCast]
      push_cast
      rfl

theorem two_zpow_le_roundBinary (hq : 0 < q) (unit : unitExponent q ≤ k) (h : 2 ^ k ≤ q) :
    2 ^ k ≤ roundBinary q := by
  obtain ⟨n, multiple⟩ := two_zpow_eq_mul_binaryUnit unit
  have quotient : n ≤ q / binaryUnit q := by
    rw [le_div_iff₀ (binaryUnit_pos q), ← multiple]
    exact h
  have rounded : (n : Rat) ≤ nearestEven (q / binaryUnit q) := by
    exact_mod_cast le_nearestEven quotient
  rw [roundBinary_of_pos hq, multiple]
  exact mul_le_mul_of_nonneg_right rounded (binaryUnit_pos q).le

end Units

/-- A count below 2 ^ 53 has whole units, so rounding leaves it alone. -/
theorem exists_natCast_div_binaryUnit {n : Nat} (pos : 0 < n) (h : n < 2 ^ 53) :
    ∃ units : Int, (n : Rat) / binaryUnit n = units := by
  have hn : (0 : Rat) < n := by exact_mod_cast pos
  have high : binaryExponent n < 53 := binaryExponent_lt hn (by exact_mod_cast h)
  have unit : unitExponent n ≤ 0 := by
    unfold unitExponent
    omega
  obtain ⟨units, one⟩ := two_zpow_eq_mul_binaryUnit unit
  refine ⟨n * units, ?_⟩
  rw [div_eq_iff (binaryUnit_pos _).ne']
  push_cast
  rw [mul_assoc, ← one, zpow_zero, mul_one]

/-- Counts below 2 ^ 53 are values of their own. -/
theorem roundBinary_natCast {n : Nat} (h : n < 2 ^ 53) : roundBinary n = n := by
  rcases Nat.eq_zero_or_pos n with rfl | pos
  · simp [roundBinary]
  have hn : (0 : Rat) < n := by exact_mod_cast pos
  obtain ⟨units, whole⟩ := exists_natCast_div_binaryUnit pos h
  rw [roundBinary_of_pos hn, whole, nearestEven_intCast, ← whole,
    div_mul_cancel₀ _ (binaryUnit_pos _).ne']

theorem roundBinary_neg_natCast {n : Nat} (h : n < 2 ^ 53) : roundBinary (-n) = -n := by
  rcases Nat.eq_zero_or_pos n with rfl | pos
  · simp [roundBinary]
  have hn : (0 : Rat) < n := by exact_mod_cast pos
  have negative : -(n : Rat) < 0 := neg_lt_zero.mpr hn
  obtain ⟨units, whole⟩ := exists_natCast_div_binaryUnit pos h
  have quotient : -(n : Rat) / binaryUnit n = ((-units : Int) : Rat) := by
    rw [neg_div, whole, Int.cast_neg]
  simp only [roundBinary, if_neg negative.ne, magnitude, if_pos negative, neg_neg]
  rw [quotient, nearestEven_intCast, ← quotient, div_mul_cancel₀ _ (binaryUnit_pos _).ne']

/-- No value from 2 ^ 53 on is rounded below it. -/
theorem two_pow_le_roundBinary {q : Rat} (h : (2 : Rat) ^ 53 ≤ q) :
    (2 : Rat) ^ 53 ≤ roundBinary q := by
  have hq : 0 < q := lt_of_lt_of_le (by norm_num) h
  have low : (53 : Int) ≤ binaryExponent q := le_binaryExponent hq (by exact_mod_cast h)
  have unit : unitExponent q ≤ binaryExponent q := by
    unfold unitExponent
    omega
  calc (2 : Rat) ^ 53 = (2 : Rat) ^ (53 : Int) := by norm_cast
    _ ≤ 2 ^ binaryExponent q := zpow_le_zpow_right₀ (by norm_num) low
    _ ≤ roundBinary q := two_zpow_le_roundBinary hq unit (two_zpow_binaryExponent_le hq)

namespace Number

theorem toCount?_natCast (n : Nat) :
    (finite n).toCount? = if n ≤ maxCount then some n else none := by
  simp [toCount?]

theorem toCount?_finite_of_lt {q : Rat} (h : (maxCount : Rat) < q) :
    (finite q).toCount? = none := by
  simp only [toCount?, ite_eq_right_iff, reduceCtorEq, imp_false, not_and]
  intro hden _ hle
  have hval : (q.num : Rat) = q := Rat.coe_int_num_of_den_eq_one hden
  have : (q.num : Rat) ≤ (maxCount : Rat) := by exact_mod_cast hle
  rw [hval] at this
  linarith

/-- A value of the size of a count is far from the infinite. -/
theorem nearest_of_magnitude_lt {q : Rat} (h : magnitude (roundBinary q) < 2 ^ 53) :
    nearest q = finite (roundBinary q) := by
  have small : magnitude (roundBinary q) < (2 : Rat) ^ (1024 : Int) :=
    calc magnitude (roundBinary q) < (2 : Rat) ^ (53 : Int) := by exact_mod_cast h
      _ ≤ 2 ^ (1024 : Int) := zpow_le_zpow_right₀ (by norm_num) (by norm_num)
  simp only [nearest, small, if_true]

theorem nearest_natCast {n : Nat} (h : n < 2 ^ 53) : nearest n = finite n := by
  have value := roundBinary_natCast h
  have small : magnitude (roundBinary n) < 2 ^ 53 := by
    rw [value, magnitude_of_nonneg (Nat.cast_nonneg n)]
    exact_mod_cast h
  rw [nearest_of_magnitude_lt small, value]

theorem nearest_neg_natCast {n : Nat} (h : n < 2 ^ 53) : nearest (-n) = finite (-n) := by
  have value := roundBinary_neg_natCast h
  have small : magnitude (roundBinary (-n)) < 2 ^ 53 := by
    rw [value]
    have size : (n : Rat) < 2 ^ 53 := by exact_mod_cast h
    have nonneg : (0 : Rat) ≤ n := Nat.cast_nonneg n
    unfold magnitude
    split <;> linarith
  rw [nearest_of_magnitude_lt small, value]

/-- The number nearest to an integer is a count for just those that are counts already, and then
it is the same one. -/
theorem toCount?_nearest_natCast (n : Nat) :
    (nearest n).toCount? = if n ≤ maxCount then some n else none := by
  by_cases h : n < 2 ^ 53
  · rw [nearest_natCast h]
    exact toCount?_natCast n
  · have hle : (2 : Rat) ^ 53 ≤ n := by exact_mod_cast not_lt.mp h
    have large : (maxCount : Rat) < roundBinary n :=
      lt_of_lt_of_le (by norm_num [maxCount]) (two_pow_le_roundBinary hle)
    have hn : ¬ n ≤ maxCount := by simp only [maxCount]; omega
    simp only [nearest, hn, if_false]
    split
    · exact toCount?_finite_of_lt large
    · rfl

end Number

end PullQuota
