import PullQuota.Proofs.Counting
import PullQuota.Proofs.Digits
import PullQuota.Proofs.Precision
import PullQuota.Quota

/-!
The printed percentage of a quota of counts: a whole number from 0 to 100 that falls as more pulls
remain, and that is never off by more than one.
-/

namespace PullQuota

section NearestUp

variable {a b q : Rat} {n : Int}

theorem le_nearestUp_iff : n ≤ nearestUp q ↔ (n : Rat) - 1 / 2 ≤ q := by
  rw [nearestUp, Rat.le_floor_iff, sub_le_iff_le_add]

theorem nearestUp_mono (h : a ≤ b) : nearestUp a ≤ nearestUp b :=
  Rat.floor_monotone (by linarith)

@[simp] theorem nearestUp_intCast (n : Int) : nearestUp n = n := by
  refine le_antisymm ?_ (le_nearestUp_iff.mpr (by linarith))
  by_contra above
  have next : n + 1 ≤ nearestUp n := by omega
  have half := le_nearestUp_iff.mp next
  push_cast at half
  linarith

/-- Numbers that are less than one apart are less than two apart when rounded. -/
theorem abs_nearestUp_sub_le (h : |a - b| < 1) : |nearestUp a - nearestUp b| ≤ 1 := by
  have bounds := abs_lt.mp h
  have up : nearestUp a ≤ nearestUp (b + 1) := nearestUp_mono (by linarith)
  have down : nearestUp b ≤ nearestUp (a + 1) := nearestUp_mono (by linarith)
  have shift (q : Rat) : nearestUp (q + 1) = nearestUp q + 1 := by
    have move : q + 1 + 1 / 2 = (q + 1 / 2) + (1 : Int) := by
      push_cast
      ring
    rw [nearestUp, nearestUp, move, Rat.floor_add_intCast]
  rw [shift] at up down
  rw [abs_le]
  omega

end NearestUp

namespace Quota

/-- The share of a quota that is used. -/
def share (limit remaining : Nat) : Rat :=
  max 0 ((limit : Rat) - remaining) / limit

/-- A share in whole percents, a half going up. -/
def percentsOf (share : Rat) : Int :=
  nearestUp (100 * share)

/-- A share in whole percents, as it is computed in binary64. -/
def computedPercents (share : Rat) : Int :=
  nearestUp (roundBinary (roundBinary share * 100))

section Share

variable {limit remaining more : Nat}

theorem share_nonneg (limit remaining : Nat) : 0 ≤ share limit remaining :=
  div_nonneg (le_max_left _ _) (Nat.cast_nonneg _)

theorem share_le_one (pos : 0 < limit) : share limit remaining ≤ 1 := by
  have positive : (0 : Rat) < limit := by exact_mod_cast pos
  have left : (0 : Rat) ≤ remaining := Nat.cast_nonneg _
  rw [share, div_le_one positive]
  exact max_le positive.le (by linarith)

theorem share_antitone (h : remaining ≤ more) : share limit more ≤ share limit remaining := by
  have fewer : (remaining : Rat) ≤ more := by exact_mod_cast h
  refine div_le_div_of_nonneg_right ?_ (Nat.cast_nonneg _)
  exact max_le_max le_rfl (by linarith)

theorem share_of_le (h : limit ≤ remaining) : share limit remaining = 0 := by
  have nothing : (limit : Rat) - remaining ≤ 0 := by
    have : (limit : Rat) ≤ remaining := by exact_mod_cast h
    linarith
  rw [share, max_eq_left nothing, zero_div]

theorem share_zero (pos : 0 < limit) : share limit 0 = 1 := by
  have positive : (0 : Rat) < limit := by exact_mod_cast pos
  rw [share, Nat.cast_zero, sub_zero, max_eq_right positive.le, div_self positive.ne']

end Share

section Computed

variable {a b q : Rat}

theorem computedPercents_mono (ha : 0 ≤ a) (h : a ≤ b) :
    computedPercents a ≤ computedPercents b := by
  have quotients : roundBinary a ≤ roundBinary b := roundBinary_mono ha h
  have products : roundBinary a * 100 ≤ roundBinary b * 100 := by linarith
  have nonneg : 0 ≤ roundBinary a * 100 := mul_nonneg (roundBinary_nonneg ha) (by norm_num)
  exact nearestUp_mono (roundBinary_mono nonneg products)

theorem computedPercents_zero : computedPercents 0 = 0 := by decide +kernel

theorem computedPercents_one : computedPercents 1 = 100 := by decide +kernel

theorem computedPercents_bounds (nonneg : 0 ≤ q) (le : q ≤ 1) :
    0 ≤ computedPercents q ∧ computedPercents q ≤ 100 := by
  have low := computedPercents_mono le_rfl nonneg
  have high := computedPercents_mono nonneg le
  rw [computedPercents_zero] at low
  rw [computedPercents_one] at high
  exact ⟨low, high⟩

theorem roundBinary_le_one (nonneg : 0 ≤ q) (le : q ≤ 1) : roundBinary q ≤ 1 := by
  have one : roundBinary 1 = 1 := by exact_mod_cast roundBinary_natCast (n := 1) (by norm_num)
  rw [← one]
  exact roundBinary_mono nonneg le

/-- The quotient is off by 2 ^ -53 at most, and the product by 2 ^ -47 more. -/
theorem abs_product_sub_lt (nonneg : 0 ≤ q) (le : q ≤ 1) :
    |roundBinary (roundBinary q * 100) - 100 * q| < 1 := by
  have quotient := abs_roundBinary_sub_le (k := 0) nonneg (by norm_num)
    (lt_of_le_of_lt le (by norm_num))
  have small := roundBinary_le_one nonneg le
  have product := abs_roundBinary_sub_le (q := roundBinary q * 100) (k := 6)
    (mul_nonneg (roundBinary_nonneg nonneg) (by norm_num)) (by norm_num)
    (lt_of_le_of_lt (show roundBinary q * 100 ≤ 100 by linarith) (by norm_num))
  rw [abs_le] at quotient product
  norm_num at quotient product
  rw [abs_lt]
  constructor <;> linarith

theorem abs_computedPercents_sub_le (nonneg : 0 ≤ q) (le : q ≤ 1) :
    |computedPercents q - percentsOf q| ≤ 1 :=
  abs_nearestUp_sub_le (abs_product_sub_lt nonneg le)

end Computed

section Text

variable {limit remaining : Nat}

theorem used_of_nearest {quota : Quota} {difference : Rat}
    (h : Number.nearest (quota.limit - quota.remaining) = .finite difference) :
    quota.used = .finite (max 0 difference) := by
  unfold used
  rw [h]
  dsimp only
  split
  next below => rw [max_eq_left (le_of_lt below)]
  next notBelow => rw [max_eq_right (not_lt.mp notBelow)]

theorem used_natCast (hl : limit ≤ Number.maxCount) (hr : remaining ≤ Number.maxCount) :
    (⟨limit, remaining⟩ : Quota).used = .finite (max 0 ((limit : Rat) - remaining)) := by
  have bound : Number.maxCount < 2 ^ 53 := by decide
  refine used_of_nearest ?_
  rcases le_total remaining limit with some | none
  · have difference : (limit : Rat) - remaining = (limit - remaining : Nat) := by
      rw [Nat.cast_sub some]
    rw [difference]
    exact Number.nearest_natCast (by omega)
  · have difference : (limit : Rat) - remaining = -((remaining - limit : Nat) : Rat) := by
      rw [Nat.cast_sub none, neg_sub]
    rw [difference]
    exact Number.nearest_neg_natCast (by omega)

theorem percentUsed_natCast (pos : 0 < limit) (hl : limit ≤ Number.maxCount)
    (hr : remaining ≤ Number.maxCount) : (⟨limit, remaining⟩ : Quota).percentUsed =
      .finite (computedPercents (share limit remaining)) := by
  have nonzero : (limit : Rat) ≠ 0 := by exact_mod_cast pos.ne'
  have nonneg := share_nonneg limit remaining
  have small := roundBinary_le_one nonneg (share_le_one pos)
  have low := roundBinary_nonneg nonneg
  have quotient : Number.nearest (share limit remaining) =
      .finite (roundBinary (share limit remaining)) := by
    refine Number.nearest_of_magnitude_lt ?_
    rw [magnitude_of_nonneg low]
    exact lt_of_le_of_lt small (by norm_num)
  have product : Number.nearest (roundBinary (share limit remaining) * 100) =
      .finite (roundBinary (roundBinary (share limit remaining) * 100)) := by
    have nonneg' := mul_nonneg low (show (0 : Rat) ≤ 100 by norm_num)
    have near := (abs_lt.mp (abs_product_sub_lt nonneg (share_le_one pos))).2
    refine Number.nearest_of_magnitude_lt ?_
    rw [magnitude_of_nonneg (roundBinary_nonneg nonneg')]
    have whole : share limit remaining ≤ 1 := share_le_one pos
    linarith
  rw [share] at quotient product
  simp only [percentUsed, if_neg nonzero, used_natCast hl hr, quotient, product, Number.andThen]
  rfl

theorem percentText_natCast (pos : 0 < limit) (hl : limit ≤ Number.maxCount)
    (hr : remaining ≤ Number.maxCount) : (⟨limit, remaining⟩ : Quota).percentText =
      toString (computedPercents (share limit remaining)).toNat ++ "%" := by
  have bounds := computedPercents_bounds (share_nonneg limit remaining) (share_le_one pos)
  obtain ⟨n, count⟩ := Int.eq_ofNat_of_zero_le bounds.1
  have small : n ≤ Number.maxCount := by
    have : Number.maxCount = 9007199254740991 := rfl
    omega
  rw [percentText, percentUsed_natCast pos hl hr, count, Int.cast_natCast,
    Number.text_natCast small, Int.toNat_natCast]

end Text

theorem toString_percent_inj {n m : Nat} (h : toString n ++ "%" = toString m ++ "%") : n = m := by
  have digits := congrArg String.toList h
  rw [String.toList_append, String.toList_append] at digits
  exact toString_inj (String.toList_inj.mp (List.append_cancel_right digits))

/-- The whole percentages that are printed for a limit, by what remains. -/
structure Graded (limit : Nat) (percents : Nat → Nat) : Prop where
  printed : ∀ remaining ≤ Number.maxCount,
    (⟨limit, remaining⟩ : Quota).percentText = toString (percents remaining) ++ "%"
  le_hundred : ∀ remaining ≤ Number.maxCount, percents remaining ≤ 100
  unused : ∀ remaining ≤ Number.maxCount, limit ≤ remaining → percents remaining = 0
  exhausted : percents 0 = 100
  antitone : ∀ remaining more, remaining ≤ more → more ≤ Number.maxCount →
    percents more ≤ percents remaining
  near : ∀ remaining ≤ Number.maxCount,
    |(percents remaining : Int) - percentsOf (share limit remaining)| ≤ 1

/-- For every limit whole percentages are printed, from 100 when nothing remains down to 0 when the
limit remains, and they are one off the exact ones at most. -/
theorem percentText_graded {limit : Nat} (pos : 0 < limit) (hl : limit ≤ Number.maxCount) :
    ∃ percents, Graded limit percents := by
  have bounds (remaining : Nat) :=
    computedPercents_bounds (share_nonneg limit remaining) (share_le_one pos)
  refine ⟨fun remaining => (computedPercents (share limit remaining)).toNat,
    fun remaining hr => percentText_natCast pos hl hr, fun remaining _ => ?_,
    fun remaining _ none => ?_, ?_, fun remaining more fewer _ => ?_, fun remaining _ => ?_⟩
  · have := (bounds remaining).2
    omega
  · rw [share_of_le none, computedPercents_zero]
    rfl
  · rw [share_zero pos, computedPercents_one]
    rfl
  · have := computedPercents_mono (share_nonneg limit more) (share_antitone fewer)
    omega
  · rw [Int.toNat_of_nonneg (bounds remaining).1]
    exact abs_computedPercents_sub_le (share_nonneg limit remaining) (share_le_one pos)

theorem percentText_graded_forty : 0 < 40 ∧ 40 ≤ Number.maxCount ∧
    ∃ percents, Graded 40 percents ∧ percents 17 = 57 ∧ percents 41 = 0 := by
  have pos : 0 < 40 := by decide
  have limit : 40 ≤ Number.maxCount := by decide
  obtain ⟨percents, graded⟩ := percentText_graded pos limit
  have text : (⟨(40 : Nat), (17 : Nat)⟩ : Quota).percentText = toString 57 ++ "%" := by
    decide +kernel
  have printed := graded.printed 17 (by decide)
  have same := toString_percent_inj (text.symm.trans printed)
  exact ⟨pos, limit, percents, graded, same.symm, graded.unused 41 (by decide) (by decide)⟩

end Quota

end PullQuota
