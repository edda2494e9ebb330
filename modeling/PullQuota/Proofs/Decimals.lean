import PullQuota.Proofs.Respelling
import Mathlib.Data.Nat.Digits.Defs

/-!
Decimal texts of any length: which of them are counts, and that each of these is read as the number
that it writes.
-/

namespace PullQuota

/-- A text of decimal digits that, each at its place, come to `n`. -/
structure Spells (digits : String) (n : Nat) : Prop where
  nonempty : digits ≠ ""
  decimal : ∀ c ∈ digits.toList, c.isDigit = true
  value : Nat.ofDigits 10 (digits.toList.reverse.map fun c => c.toNat - '0'.toNat) = n

theorem decimalValue_eq_ofDigits (digits : List Char) : decimalValue digits =
    Nat.ofDigits 10 (digits.reverse.map fun c => c.toNat - '0'.toNat) := by
  induction digits using List.reverseRecOn with
  | nil => rfl
  | append_singleton digits c ih =>
    have last : decimalValue (digits ++ [c]) =
        10 * decimalValue digits + (c.toNat - '0'.toNat) := by
      simp [decimalValue]
    rw [last, ih, List.reverse_append, List.reverse_singleton, List.singleton_append, List.map_cons,
      Nat.ofDigits_cons]
    exact Nat.add_comm _ _

section Texts

variable {digits text : String} {n : Nat}

theorem spells_trim_iff : Spells (trim text) n ↔ Writes text n := by
  have digits : (trim text).toList = stripEnds isBlank text.toList := String.toList_ofList
  have nonempty : trim text ≠ "" ↔ stripEnds isBlank text.toList ≠ [] := by
    rw [← digits, ne_eq, ne_eq, String.toList_eq_nil_iff]
  constructor
  · intro h
    exact ⟨nonempty.mp h.nonempty, digits ▸ h.decimal, by
      rw [decimalValue_eq_ofDigits, ← digits, h.value]⟩
  · rintro ⟨some, decimal, value⟩
    exact ⟨nonempty.mpr some, digits ▸ decimal, by rw [digits, ← decimalValue_eq_ofDigits, value]⟩

theorem Spells.trim_eq (h : Spells digits n) (spaced : Spaced digits text) :
    trim text = digits := by
  rw [spaced.trim_eq, trim, strip, stripEnds_of_isDigit h.decimal, String.ofList_toList]

theorem spells_toString (n : Nat) : Spells (toString n) n := by
  rw [← (trimmed_toString n).trim_eq]
  exact spells_trim_iff.mpr (writes_toString n)

end Texts

/-- A text is read as `n` just if, without the blanks at its ends, it consists of digits that spell
`n`, and `n` is less than 2 ^ 53; all other texts are no counts. It does not matter how many digits
there are, which blanks stand around them, or that they are read as a number of 53 bits. -/
theorem parseCount_exact (text : String) :
    (∀ n, parseCount text = some n ↔ Spells (trim text) n ∧ n ≤ 2 ^ 53 - 1) ∧
    (parseCount text = none ↔ ∀ n, Spells (trim text) n → 2 ^ 53 - 1 < n) ∧
    (∀ digits n, Spells digits n → Spaced digits text →
      parseCount text = if n ≤ 2 ^ 53 - 1 then some n else none) ∧
    ∀ n ≤ 2 ^ 53 - 1, Spaced (toString n) text → parseCount text = some n := by
  have some_iff (n : Nat) : parseCount text = some n ↔ Spells (trim text) n ∧ n ≤ 2 ^ 53 - 1 := by
    rw [spells_trim_iff]
    exact parseCount_eq_some_iff
  have none_iff : parseCount text = none ↔ ∀ n, Spells (trim text) n → 2 ^ 53 - 1 < n := by
    simp only [spells_trim_iff]
    exact parseCount_eq_none_iff
  have read (digits : String) (n : Nat) (spells : Spells digits n) (spaced : Spaced digits text) :
      parseCount text = if n ≤ 2 ^ 53 - 1 then some n else none := by
    rw [← spells.trim_eq spaced] at spells
    split
    next small => exact (some_iff n).mpr ⟨spells, small⟩
    next large =>
      refine none_iff.mpr fun m spells' => ?_
      rw [← spells'.value, spells.value]
      exact not_le.mp large
  refine ⟨some_iff, none_iff, read, fun n small spaced => ?_⟩
  rw [read _ n (spells_toString n) spaced, if_pos small]

/-- The greatest count with zeros before it, the number after it, and a count with blanks around it.
-/
theorem parseCount_exact_border :
    parseCount "\u2028\t0009007199254740991\ufeff " = some 9007199254740991 ∧
      parseCount "9007199254740992\u00a0" = none ∧ parseCount "\n80 " = some 80 := by
  have greatest : Spells "0009007199254740991" 9007199254740991 :=
    ⟨by decide, List.all_eq_true.mp (by decide +kernel), by decide +kernel⟩
  have above : Spells "9007199254740992" 9007199254740992 :=
    ⟨by decide, List.all_eq_true.mp (by decide +kernel), by decide +kernel⟩
  have spaced (left core right : String)
      (blank : left.toList.all isBlank = true ∧ right.toList.all isBlank = true) :
      Spaced core (left ++ core ++ right) :=
    ⟨left, right, List.all_eq_true.mp blank.1, List.all_eq_true.mp blank.2, rfl⟩
  obtain ⟨_, _, first, _⟩ := parseCount_exact "\u2028\t0009007199254740991\ufeff "
  obtain ⟨_, _, second, _⟩ := parseCount_exact "9007199254740992\u00a0"
  obtain ⟨_, _, _, third⟩ := parseCount_exact "\n80 "
  refine ⟨?_, ?_, ?_⟩
  · rw [first _ _ greatest (spaced "\u2028\t" _ "\ufeff " (by decide))]
    rfl
  · rw [second _ _ above (spaced "" _ "\u00a0" (by decide))]
    rfl
  · exact third 80 (by decide) (spaced "\n" (toString 80) " " (by decide))

end PullQuota
