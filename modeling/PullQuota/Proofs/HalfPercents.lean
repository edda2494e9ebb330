import PullQuota.Proofs.Percentages
import PullQuota.Report
import Mathlib.Data.Rat.Lemmas

/-!
When the printed percentage is the exact one, rounded with halves going up. Since the quotient is
rounded before it is taken times a hundred, the number turns beside a half percent and not at it.
-/

namespace PullQuota

namespace Quota

/-- The share at which `k` percents turn into `k + 1`. -/
def halfShare (k : Nat) : Rat :=
  (2 * k + 1) / 200

/-- The share past which `k + 1` percents are printed: half a unit below the least quotient whose
product with a hundred is rounded to `k + 1 / 2`. -/
def turningShare (k : Nat) : Rat :=
  let reach := (k + 1 / 2 - binaryUnit (k + 1 / 2) / 2) / 100
  ((reach / binaryUnit reach).ceil - 1 / 2) * binaryUnit reach

/-- No share of a limit comes closer to a turning share than this. -/
def turningGap (k : Nat) : Rat :=
  1 / (2 ^ 53 * (turningShare k).den)

/-- The half percents that are printed as one percent less: 14.5, 28.5, 56.5 and 57.5 percents. -/
def lostShares : List Rat :=
  [29 / 200, 57 / 200, 113 / 200, 115 / 200]

section Separation

variable {limit remaining : Nat}

theorem share_eq_natCast_div (limit remaining : Nat) :
    share limit remaining = ((limit - remaining : Nat) : Rat) / limit := by
  rcases le_total remaining limit with some | none
  · have nonneg : (0 : Rat) ≤ (limit : Rat) - remaining := by
      rw [← Nat.cast_sub some]
      exact Nat.cast_nonneg _
    rw [share, max_eq_right nonneg, Nat.cast_sub some]
  · rw [share_of_le none, Nat.sub_eq_zero_of_le none, Nat.cast_zero, zero_div]

theorem share_den_le (pos : 0 < limit) : (share limit remaining).den ≤ limit := by
  have divides : ((share limit remaining).den : Int) ∣ limit := by
    have quotient : share limit remaining =
        Rat.divInt ((limit - remaining : Nat) : Int) (limit : Int) := by
      rw [share_eq_natCast_div, Rat.divInt_eq_div, Int.cast_natCast, Int.cast_natCast]
    rw [quotient]
    exact Rat.den_dvd _ _
  exact Nat.le_of_dvd pos (Int.natCast_dvd_natCast.mp divides)

/-- A share has its limit as a denominator, so it keeps away from the numbers that it is not. -/
theorem one_div_le_abs_share_sub (pos : 0 < limit) {q : Rat} (ne : share limit remaining ≠ q) :
    1 / ((limit : Rat) * q.den) ≤ |share limit remaining - q| := by
  have positive : (0 : Rat) < limit := by exact_mod_cast pos
  have den : (0 : Rat) < q.den := by exact_mod_cast q.den_pos
  have whole : (share limit remaining - q) * (limit * q.den) =
      (((limit - remaining : Nat) * q.den - q.num * limit : Int) : Rat) := by
    have cleared : share limit remaining * limit = (limit - remaining : Nat) := by
      rw [share_eq_natCast_div, div_mul_cancel₀ _ positive.ne']
    push_cast
    rw [← cleared, ← Rat.mul_den_eq_num q]
    ring
  have nonzero : ((limit - remaining : Nat) * q.den - q.num * limit : Int) ≠ 0 := by
    intro zero
    rw [zero, Int.cast_zero] at whole
    have product : (limit : Rat) * q.den ≠ 0 := (mul_pos positive den).ne'
    exact ne (sub_eq_zero.mp ((mul_eq_zero.mp whole).resolve_right product))
  have one : (1 : Rat) ≤ |(share limit remaining - q) * (limit * q.den)| := by
    rw [whole]
    exact_mod_cast Int.one_le_abs nonzero
  rw [abs_mul, abs_of_pos (mul_pos positive den)] at one
  rwa [div_le_iff₀ (mul_pos positive den)]

end Separation

section Turning

variable {limit remaining k : Nat}

/-- Each turning share is one: around it the computed number goes from `k` to `k + 1`. -/
theorem computedPercents_turningShare : ∀ k < 100, 2 ^ 53 ≤ (turningShare k).den ∧
    0 ≤ turningShare k - turningGap k ∧ computedPercents (turningShare k - turningGap k) = k ∧
    computedPercents (turningShare k + turningGap k) = k + 1 := by
  decide +kernel

theorem turningGap_le_abs_sub (pos : 0 < limit) (hl : limit ≤ Number.maxCount) (hk : k < 100) :
    turningGap k ≤ |share limit remaining - turningShare k| := by
  have den := (computedPercents_turningShare k hk).1
  have bound : Number.maxCount < 2 ^ 53 := by decide
  have ne : share limit remaining ≠ turningShare k := by
    intro same
    have small : (share limit remaining).den ≤ limit := share_den_le pos
    rw [same] at small
    omega
  have positive : (0 : Rat) < limit := by exact_mod_cast pos
  have denominator : (0 : Rat) < (turningShare k).den := by exact_mod_cast (turningShare k).den_pos
  have limits : (limit : Rat) ≤ 2 ^ 53 := by exact_mod_cast (hl.trans bound.le)
  refine le_trans ?_ (one_div_le_abs_share_sub pos ne)
  exact one_div_le_one_div_of_le (mul_pos positive denominator)
    (mul_le_mul_of_nonneg_right limits denominator.le)

/-- More than `k` percents are printed just past the turning share. -/
theorem succ_le_computedPercents_iff (pos : 0 < limit) (hl : limit ≤ Number.maxCount)
    (hk : k < 100) : (k : Int) + 1 ≤ computedPercents (share limit remaining) ↔
      turningShare k < share limit remaining := by
  obtain ⟨_, nonneg, below, above⟩ := computedPercents_turningShare k hk
  have apart : turningGap k ≤ |share limit remaining - turningShare k| :=
    turningGap_le_abs_sub pos hl hk
  have gap : 0 < turningGap k := by
    have den : (0 : Rat) < (turningShare k).den := by exact_mod_cast (turningShare k).den_pos
    unfold turningGap
    positivity
  rcases le_abs.mp apart with past | before
  · have less : turningShare k < share limit remaining := by linarith
    have more := computedPercents_mono (a := turningShare k + turningGap k)
      (b := share limit remaining) (by linarith) (by linarith)
    rw [above] at more
    exact iff_of_true more less
  · have notLess : ¬ turningShare k < share limit remaining := by linarith
    have atMost := computedPercents_mono (share_nonneg limit remaining)
      (show share limit remaining ≤ turningShare k - turningGap k by linarith)
    rw [below] at atMost
    exact iff_of_false (by omega) notLess

theorem succ_le_percentsOf_iff {q : Rat} : (k : Int) + 1 ≤ percentsOf q ↔ halfShare k ≤ q := by
  rw [percentsOf, le_nearestUp_iff, halfShare, div_le_iff₀ (by norm_num)]
  push_cast
  constructor <;> intro h <;> linarith

theorem percentsOf_bounds {q : Rat} (nonneg : 0 ≤ q) (le : q ≤ 1) :
    0 ≤ percentsOf q ∧ percentsOf q ≤ 100 := by
  have low := nearestUp_mono (show ((0 : Int) : Rat) ≤ 100 * q by push_cast; linarith)
  have high := nearestUp_mono (show 100 * q ≤ ((100 : Int) : Rat) by push_cast; linarith)
  rw [nearestUp_intCast] at low high
  exact ⟨low, high⟩

/-- The computed number is the exact one just if the share lies on the same side of each turning
share as of the half percent beside it. -/
theorem computedPercents_eq_iff (pos : 0 < limit) (hl : limit ≤ Number.maxCount) :
    computedPercents (share limit remaining) = percentsOf (share limit remaining) ↔
      ∀ k < 100,
        (turningShare k < share limit remaining ↔ halfShare k ≤ share limit remaining) := by
  have nonneg := share_nonneg limit remaining
  have whole : share limit remaining ≤ 1 := share_le_one pos
  have computed := computedPercents_bounds nonneg whole
  have exact := percentsOf_bounds nonneg whole
  constructor
  · intro same k hk
    rw [← succ_le_computedPercents_iff pos hl hk, ← succ_le_percentsOf_iff, same]
  · intro sides
    have reach (k : Nat) (hk : k < 100) :
        (k : Int) + 1 ≤ computedPercents (share limit remaining) ↔
          (k : Int) + 1 ≤ percentsOf (share limit remaining) := by
      rw [succ_le_computedPercents_iff pos hl hk, succ_le_percentsOf_iff]
      exact sides k hk
    by_contra differ
    rcases lt_or_gt_of_ne differ with less | more
    · have := reach (computedPercents (share limit remaining)).toNat (by omega)
      omega
    · have := reach (percentsOf (share limit remaining)).toNat (by omega)
      omega

end Turning

section Moderate

variable {limit remaining k : Nat}

/-- Turning shares lie beside their half percents, closer than shares of a moderate limit can be, and
only the four lost half percents lie below theirs. -/
theorem turningShare_near : ∀ k < 100, (halfShare k).den ≤ 200 ∧
    halfShare k - 1 / (2 ^ 45 * 200) < turningShare k ∧
    turningShare k < halfShare k + 1 / (2 ^ 45 * 200) ∧
    (turningShare k < halfShare k ↔ halfShare k ∉ lostShares) := by
  decide +kernel

theorem turningShare_lt_iff_of_ne (pos : 0 < limit) (hl : limit ≤ 2 ^ 45) (hk : k < 100)
    (ne : share limit remaining ≠ halfShare k) :
    turningShare k < share limit remaining ↔ halfShare k ≤ share limit remaining := by
  obtain ⟨den, low, high, _⟩ := turningShare_near k hk
  have positive : (0 : Rat) < limit := by exact_mod_cast pos
  have denominator : (0 : Rat) < (halfShare k).den := by exact_mod_cast (halfShare k).den_pos
  have size : (limit : Rat) * (halfShare k).den ≤ 2 ^ 45 * 200 :=
    mul_le_mul (by exact_mod_cast hl) (by exact_mod_cast den) denominator.le (by norm_num)
  have apart := (one_div_le_one_div_of_le (mul_pos positive denominator) size).trans
    (one_div_le_abs_share_sub pos ne)
  rcases le_abs.mp apart with past | before
  · exact iff_of_true (by linarith) (by linarith)
  · refine iff_of_false (by linarith) ?_
    rw [not_le]
    linarith [show (0 : Rat) < 1 / (2 ^ 45 * 200) by norm_num]

theorem exists_halfShare_of_mem {q : Rat} (mem : q ∈ lostShares) : ∃ k < 100, q = halfShare k ∧
    computedPercents q = k ∧ percentsOf q = k + 1 := by
  have lost : ∀ q ∈ lostShares, ∃ k ∈ [14, 28, 56, 57], q = halfShare k ∧
      computedPercents q = k ∧ percentsOf q = k + 1 := by
    decide +kernel
  obtain ⟨k, listed, found⟩ := lost q mem
  have bound : ∀ k ∈ [14, 28, 56, 57], k < 100 := by decide
  exact ⟨k, bound k listed, found⟩

theorem computedPercents_eq_iff_of_le (pos : 0 < limit) (hl : limit ≤ 2 ^ 45) :
    computedPercents (share limit remaining) = percentsOf (share limit remaining) ↔
      share limit remaining ∉ lostShares := by
  have count : limit ≤ Number.maxCount := hl.trans (by decide)
  constructor
  · intro same mem
    obtain ⟨k, _, _, computed, exact⟩ := exists_halfShare_of_mem mem
    omega
  · intro kept
    rw [computedPercents_eq_iff pos count]
    intro k hk
    by_cases half : share limit remaining = halfShare k
    · rw [half] at kept ⊢
      exact iff_of_true ((turningShare_near k hk).2.2.2.mpr kept) le_rfl
    · exact turningShare_lt_iff_of_ne pos hl hk half

end Moderate

/-- The text of the exact percentage, rounded to a whole number with halves going up. -/
def roundedText (limit remaining : Nat) : String :=
  toString (percentsOf (share limit remaining)).toNat ++ "%"

theorem percentText_eq_roundedText_iff {limit remaining : Nat} (pos : 0 < limit)
    (hl : limit ≤ Number.maxCount) (hr : remaining ≤ Number.maxCount) :
    (⟨limit, remaining⟩ : Quota).percentText = roundedText limit remaining ↔
      computedPercents (share limit remaining) = percentsOf (share limit remaining) := by
  have nonneg := share_nonneg limit remaining
  have whole : share limit remaining ≤ 1 := share_le_one pos
  have computed := computedPercents_bounds nonneg whole
  have exact := percentsOf_bounds nonneg whole
  rw [percentText_natCast pos hl hr, roundedText]
  constructor
  · intro same
    have := toString_percent_inj same
    omega
  · intro same
    rw [same]

end Quota

namespace Report

/-- A report shows a percentage: on a line below its table, and in brackets on the console. -/
structure ShowsPercents (report : Report) (text : String) : Prop where
  markdown : ∃ before after, report.markdown =
    before ++ "\n" ++ ("*" ++ text ++ " of the current window used.*") ++ "\n" ++ after
  console : ∃ after, report.console = "DockerHub pulls: " ++ report.quota.remainingText ++ "/" ++
    report.quota.limitText ++ " remaining (" ++ text ++ " used)" ++ after

theorem exists_lines_append {line next : String} {below : List String} (first : String)
    (above : List String) : ∃ before after,
    lines (first :: above ++ line :: next :: below) = before ++ "\n" ++ line ++ "\n" ++ after := by
  induction above generalizing first with
  | nil =>
    refine ⟨first, lines (next :: below), ?_⟩
    simp only [lines, List.cons_append, List.nil_append, String.intercalate_cons_cons,
      String.append_assoc]
  | cons second above ih =>
    obtain ⟨before, after, same⟩ := ih second
    refine ⟨first ++ "\n" ++ before, after, ?_⟩
    simp only [lines, List.cons_append, String.intercalate_cons_cons] at same ⊢
    rw [same]
    simp only [String.append_assoc]

theorem showsPercents (report : Report) : report.ShowsPercents report.quota.percentText := by
  constructor
  · unfold markdown
    exact exists_lines_append _ [_, _, _, _, _, _, _]
  · unfold console lines
    by_cases none : report.warnings = []
    · refine ⟨"", ?_⟩
      rw [if_pos none, String.intercalate_singleton, String.append_empty]
    · refine ⟨"\n" ++ ("Warnings: " ++ toString report.warnings.length), ?_⟩
      rw [if_neg none, String.intercalate_cons_cons, String.intercalate_singleton]
      simp only [String.append_assoc]

end Report

namespace Quota

/-- When the printed percentage of a quota is the exact one, rounded with halves going up. -/
structure RoundsExactly (limit remaining : Nat) : Prop where
  exact_iff : (⟨limit, remaining⟩ : Quota).percentText = roundedText limit remaining ↔
    ∀ k < 100, (turningShare k < share limit remaining ↔ halfShare k ≤ share limit remaining)
  moderate : limit ≤ 2 ^ 45 →
    ((⟨limit, remaining⟩ : Quota).percentText = roundedText limit remaining ↔
      share limit remaining ∉ lostShares)
  lost : limit ≤ 2 ^ 45 → share limit remaining ∈ lostShares →
    (⟨limit, remaining⟩ : Quota).percentText =
      toString ((percentsOf (share limit remaining)).toNat - 1) ++ "%"
  shown : ∀ report : Report, report.quota = ⟨limit, remaining⟩ →
    report.ShowsPercents (⟨limit, remaining⟩ : Quota).percentText

/-- The printed percentage is the exact one unless the share lies between a half percent and the
place where the printed number turns. Up to limits of 2 ^ 45 only four shares do, and these are
printed as one percent less. -/
theorem percentText_roundsExactly {limit remaining : Nat} (pos : 0 < limit)
    (hl : limit ≤ Number.maxCount) (hr : remaining ≤ Number.maxCount) :
    RoundsExactly limit remaining where
  exact_iff := by
    rw [percentText_eq_roundedText_iff pos hl hr, computedPercents_eq_iff pos hl]
  moderate small := by
    rw [percentText_eq_roundedText_iff pos hl hr, computedPercents_eq_iff_of_le pos small]
  lost _ mem := by
    obtain ⟨k, _, _, computed, exact⟩ := exists_halfShare_of_mem mem
    rw [percentText_natCast pos hl hr, computed, exact]
    rfl
  shown := by
    rintro report same
    have shows := report.showsPercents
    rwa [same] at shows

/-- Of 200 pulls 113 are used, which is 56.5 percent. -/
theorem percentText_roundsExactly_lost : 0 < 200 ∧ share 200 87 ∈ lostShares ∧
    RoundsExactly 200 87 ∧ (⟨(200 : Nat), (87 : Nat)⟩ : Quota).percentText = "56%" := by
  have rounds : RoundsExactly 200 87 :=
    percentText_roundsExactly (by decide) (by decide) (by decide)
  have mem : share 200 87 ∈ lostShares := by decide +kernel
  have exact : percentsOf (share 200 87) = 57 := by decide +kernel
  have text := rounds.lost (by decide) mem
  rw [exact] at text
  exact ⟨by decide, mem, rounds, text⟩

/-- Of 40 pulls 23 are used, which is 57.5 percent. -/
theorem percentText_loses_half :
    share 40 17 = 115 / 200 ∧ roundedText 40 17 = "58%" ∧
      (⟨40, 17⟩ : Quota).percentText = "57%" := by
  decide +kernel

end Quota

end PullQuota
