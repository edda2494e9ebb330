import PullQuota.Proofs.Rounding

/-!
The texts that are read as counts, and those that counts are written with.
-/

namespace PullQuota

/-- A text that writes `n` in decimal digits, with any blanks around them. -/
def Writes (text : String) (n : Nat) : Prop :=
  let digits := stripEnds isBlank text.toList
  digits ≠ [] ∧ (∀ d ∈ digits, d.isDigit) ∧ decimalValue digits = n

theorem Writes.unique {text : String} {n m : Nat} (h : Writes text n) (h' : Writes text m) :
    n = m :=
  h.2.2.symm.trans h'.2.2

theorem parseCount_eq_some_iff {text : String} {n : Nat} :
    parseCount text = some n ↔ Writes text n ∧ n ≤ Number.maxCount := by
  simp only [parseCount, Writes, List.all_eq_true]
  split
  next h =>
    rw [Number.toCount?_nearest_natCast]
    constructor
    · intro heq
      split at heq
      next hle =>
        cases Option.some.inj heq
        exact ⟨⟨h.1, h.2, rfl⟩, hle⟩
      next => simp at heq
    · rintro ⟨⟨_, _, rfl⟩, hle⟩
      exact if_pos hle
  next h =>
    constructor
    · simp
    · rintro ⟨⟨nonempty, digits, _⟩, _⟩
      exact absurd ⟨nonempty, digits⟩ h

theorem parseCount_eq_none_iff {text : String} :
    parseCount text = none ↔ ∀ n, Writes text n → Number.maxCount < n := by
  constructor
  · intro h n hw
    by_contra hle
    have := parseCount_eq_some_iff.mpr ⟨hw, not_lt.mp hle⟩
    simp [h] at this
  · intro h
    by_contra hne
    obtain ⟨n, hn⟩ := Option.ne_none_iff_exists'.mp hne
    obtain ⟨hw, hle⟩ := parseCount_eq_some_iff.mp hn
    exact absurd (h n hw) (not_lt.mpr hle)

theorem Number.finiteText_natCast {n : Nat} (h : n ≤ maxCount) :
    finiteText n = decimalDigits n := by
  have whole : (n : Rat).den = 1 ∧ (n : Rat).num.natAbs ≤ maxCount := by
    rw [Rat.den_natCast, Rat.num_natCast, Int.natAbs_natCast]
    exact ⟨rfl, h⟩
  have nonneg : ¬ ((n : Rat) < 0) := not_lt.mpr (Nat.cast_nonneg n)
  rw [finiteText, if_pos whole, if_neg nonneg, Rat.num_natCast, Int.natAbs_natCast]
  rfl

theorem Number.text_natCast {n : Nat} (h : n ≤ maxCount) : (finite n).text = toString n := by
  rw [text, finiteText_natCast h]
  rfl

end PullQuota
