import PullQuota.Proofs.Rounding

/-!
Rounding to binary64 keeps the order of numbers, and takes none of them further than half a unit.
-/

namespace PullQuota

section NearestEven

variable {a b q : Rat}

theorem abs_nearestEven_sub_le (q : Rat) : |(nearestEven q : Rat) - q| ≤ 1 / 2 := by
  have low : (q.floor : Rat) ≤ q := Rat.le_floor_iff.mp le_rfl
  have high : q < (q.floor + 1 : Int) := Rat.lt_floor_add_one q
  push_cast at high
  rw [abs_le]
  simp only [nearestEven]
  split
  next below => constructor <;> linarith
  next notBelow =>
    split
    next => push_cast; constructor <;> linarith
    next notAbove =>
      -- A half is as far from either neighbour.
      split
      · constructor <;> linarith
      · push_cast; constructor <;> linarith

theorem nearestEven_le {n : Int} (h : q ≤ n) : nearestEven q ≤ n := by
  by_contra above
  have next : (n : Rat) + 1 ≤ nearestEven q := by exact_mod_cast not_le.mp above
  have near := (abs_le.mp (abs_nearestEven_sub_le q)).2
  linarith

theorem nearestEven_le_floor_add_one (q : Rat) : nearestEven q ≤ q.floor + 1 :=
  nearestEven_le (Rat.lt_floor_add_one q).le

theorem nearestEven_of_half_lt (h : 1 / 2 < q - q.floor) : nearestEven q = q.floor + 1 := by
  simp only [nearestEven]
  rw [if_neg (by linarith), if_pos h]

theorem nearestEven_mono (h : a ≤ b) : nearestEven a ≤ nearestEven b := by
  rcases h.eq_or_lt with rfl | less
  · exact le_rfl
  have floors : a.floor ≤ b.floor := Rat.floor_monotone h
  have atLeast : b.floor ≤ nearestEven b := le_nearestEven (Rat.le_floor_iff.mp le_rfl)
  rcases floors.eq_or_lt with same | apart
  · by_cases below : a - a.floor < 1 / 2
    · have down : nearestEven a = a.floor := by
        simp only [nearestEven]
        rw [if_pos below]
      omega
    · have past : 1 / 2 < b - b.floor := by
        rw [← same]
        linarith
      have up := nearestEven_of_half_lt past
      have := nearestEven_le_floor_add_one a
      omega
  · have := nearestEven_le_floor_add_one a
    omega

end NearestEven

section RoundBinary

variable {a b q : Rat} {k : Int}

theorem binaryExponent_mono (ha : 0 < a) (h : a ≤ b) : binaryExponent a ≤ binaryExponent b :=
  le_binaryExponent (ha.trans_le h) ((two_zpow_binaryExponent_le ha).trans h)

theorem roundBinary_le_two_zpow (hq : 0 < q) (unit : unitExponent q ≤ k) (h : q ≤ 2 ^ k) :
    roundBinary q ≤ 2 ^ k := by
  obtain ⟨n, multiple⟩ := two_zpow_eq_mul_binaryUnit unit
  have quotient : q / binaryUnit q ≤ n := by
    rw [div_le_iff₀ (binaryUnit_pos q), ← multiple]
    exact h
  have rounded : (nearestEven (q / binaryUnit q) : Rat) ≤ n := by
    exact_mod_cast nearestEven_le quotient
  rw [roundBinary_of_pos hq, multiple]
  exact mul_le_mul_of_nonneg_right rounded (binaryUnit_pos q).le

theorem roundBinary_nonneg (hq : 0 ≤ q) : 0 ≤ roundBinary q := by
  rcases hq.eq_or_lt with rfl | pos
  · simp [roundBinary]
  · have quotient : ((0 : Int) : Rat) ≤ q / binaryUnit q := by
      rw [Int.cast_zero]
      exact div_nonneg hq (binaryUnit_pos q).le
    have rounded : (0 : Rat) ≤ nearestEven (q / binaryUnit q) := by
      exact_mod_cast le_nearestEven quotient
    rw [roundBinary_of_pos pos]
    exact mul_nonneg rounded (binaryUnit_pos q).le

theorem roundBinary_mono (ha : 0 ≤ a) (h : a ≤ b) : roundBinary a ≤ roundBinary b := by
  rcases ha.eq_or_lt with rfl | pos
  · simpa [roundBinary] using roundBinary_nonneg h
  have posb : 0 < b := pos.trans_le h
  have exponents := binaryExponent_mono pos h
  by_cases same : unitExponent a = unitExponent b
  · have unit : binaryUnit a = binaryUnit b := congrArg (fun e : Int => (2 : Rat) ^ e) same
    have quotients : a / binaryUnit b ≤ b / binaryUnit b :=
      div_le_div_of_nonneg_right h (binaryUnit_pos b).le
    have rounded : (nearestEven (a / binaryUnit b) : Rat) ≤ nearestEven (b / binaryUnit b) := by
      exact_mod_cast nearestEven_mono quotients
    rw [roundBinary_of_pos pos, roundBinary_of_pos posb, unit]
    exact mul_le_mul_of_nonneg_right rounded (binaryUnit_pos b).le
  · -- A power of two lies between them, and neither is rounded past it.
    have apart : binaryExponent a + 1 ≤ binaryExponent b := by
      unfold unitExponent at same
      omega
    have below : a ≤ (2 : Rat) ^ binaryExponent b :=
      (lt_two_zpow_binaryExponent_add_one pos).le.trans (zpow_le_zpow_right₀ (by norm_num) apart)
    have units : unitExponent a ≤ binaryExponent b ∧ unitExponent b ≤ binaryExponent b := by
      unfold unitExponent at same ⊢
      omega
    calc roundBinary a ≤ 2 ^ binaryExponent b := roundBinary_le_two_zpow pos units.1 below
      _ ≤ roundBinary b :=
        two_zpow_le_roundBinary posb units.2 (two_zpow_binaryExponent_le posb)

/-- A number below a power of two is rounded by half a unit of those below it at most. -/
theorem abs_roundBinary_sub_le (hq : 0 ≤ q) (low : -1022 ≤ k) (h : q < (2 : Rat) ^ (k + 1)) :
    |roundBinary q - q| ≤ (2 : Rat) ^ (k - 53) := by
  rcases hq.eq_or_lt with rfl | pos
  · simpa [roundBinary] using (two_zpow_pos (k - 53)).le
  have exponent := binaryExponent_lt pos h
  have unit : binaryUnit q ≤ (2 : Rat) ^ (k - 52) := by
    refine zpow_le_zpow_right₀ (by norm_num) ?_
    omega
  have difference : roundBinary q - q =
      (nearestEven (q / binaryUnit q) - q / binaryUnit q) * binaryUnit q := by
    rw [roundBinary_of_pos pos, sub_mul, div_mul_cancel₀ _ (binaryUnit_pos q).ne']
  have half : (2 : Rat) ^ (k - 53) = 1 / 2 * 2 ^ (k - 52) := by
    have exponent : k - 53 = -1 + (k - 52) := by ring
    rw [exponent, zpow_add₀ (by norm_num)]
    norm_num
  rw [difference, abs_mul, abs_of_pos (binaryUnit_pos q), half]
  exact mul_le_mul (abs_nearestEven_sub_le _) unit (binaryUnit_pos q).le (by norm_num)

end RoundBinary

end PullQuota
