import PullQuota.Number.Decimal

/-!
Decimal digits read back, and the characters of which the texts of numbers consist.
-/

namespace PullQuota

theorem isDigit_of_mem_decimalDigits {n : Nat} {c : Char} (h : c ∈ decimalDigits n) :
    c.isDigit = true :=
  Nat.isDigit_of_mem_toDigits (by decide) (by decide) h

theorem toList_toString (n : Nat) : (toString n).toList = decimalDigits n :=
  String.toList_ofList

theorem decimalValue_decimalDigits (n : Nat) : decimalValue (decimalDigits n) = n := by
  rw [decimalValue, decimalDigits, ← Nat.ofDigitChars_eq_foldl, Nat.ofDigitChars_ten_toDigits]

theorem toString_inj {n m : Nat} (h : toString n = toString m) : n = m := by
  have digits : decimalDigits n = decimalDigits m := by
    rw [← toList_toString, ← toList_toString, h]
  rw [← decimalValue_decimalDigits n, digits, decimalValue_decimalDigits]

/-- Digits of a positive number start with no zero. -/
theorem decimalDigits_head_ne_zero {n : Nat} (pos : 0 < n) :
    (decimalDigits n).head? ≠ some '0' := by
  induction n using Nat.strongRecOn with
  | ind n ih =>
    rw [decimalDigits, Nat.toDigits_eq_if (by decide)]
    split
    next small =>
      have single : ∀ n < 10, 0 < n → [n.digitChar].head? ≠ some '0' := by decide
      exact single n small pos
    next large =>
      rw [List.head?_append, List.head?_eq_some_head Nat.toDigits_ne_nil, Option.some_or,
        ← List.head?_eq_some_head]
      exact ih (n / 10) (by omega) (by omega)

namespace Number

/-- The characters of the texts of numbers. -/
def isGlyph (c : Char) : Bool :=
  c.isDigit || "-+.eInfity".toList.contains c

theorem decimalDigits_all_isGlyph (n : Nat) : (decimalDigits n).all isGlyph = true := by
  refine List.all_eq_true.mpr fun c mem => ?_
  simp [isGlyph, isDigit_of_mem_decimalDigits mem]

theorem layOut_all_isGlyph {digits : List Char} (h : digits.all isGlyph = true) (point : Int) :
    (layOut digits point).all isGlyph = true := by
  have part {ds : List Char} (sub : ds ⊆ digits) : ds.all isGlyph = true :=
    List.all_eq_true.mpr fun c mem => List.all_eq_true.mp h c (sub mem)
  have taken (n : Nat) : (digits.take n).all isGlyph = true := part (List.take_subset n digits)
  have dropped (n : Nat) : (digits.drop n).all isGlyph = true := part (List.drop_subset n digits)
  have zeros (n : Nat) : (zeros n).all isGlyph = true := by
    simp [Number.zeros, List.all_replicate, show isGlyph '0' = true by decide]
  have dot : isGlyph '.' = true := by decide
  have fraction : (if digits.drop 1 = [] then [] else '.' :: digits.drop 1).all isGlyph = true := by
    split
    next => rfl
    next => rw [List.all_cons, dropped, dot, Bool.and_self]
  have sign : isGlyph (if point - 1 < 0 then '-' else '+') = true := by split <;> decide
  unfold layOut
  dsimp only
  split
  next => simp only [List.all_append, h, zeros, Bool.and_self]
  split
  next => simp only [List.all_append, List.all_cons, taken, dropped, dot, Bool.and_self]
  split
  next =>
    simp only [List.all_append, List.all_cons, h, zeros, dot]
    decide
  next =>
    simp only [List.all_append, List.all_cons, taken, fraction, sign, decimalDigits_all_isGlyph]
    decide

theorem text_all_isGlyph (n : Number) : n.text.toList.all isGlyph = true := by
  cases n with
  | infinite negative => cases negative <;> decide
  | finite q =>
    have sign : (if q < 0 then ['-'] else []).all isGlyph = true := by split <;> decide
    have digits := decimalDigits_all_isGlyph
    rw [text, String.toList_ofList]
    unfold finiteText
    split
    next => rw [List.all_append, sign, digits, Bool.and_self]
    next =>
      have shortest {ds : List Char} (h : ds.all isGlyph = true) :
          ((ds.reverse.dropWhile (· == '0')).reverse).all isGlyph = true := by
        refine List.all_eq_true.mpr fun c mem => List.all_eq_true.mp h c ?_
        have mem := (List.dropWhile_suffix _).subset (List.mem_reverse.mp mem)
        exact List.mem_reverse.mp mem
      rw [List.all_append, sign, positiveText, layOut_all_isGlyph (shortest (digits _)),
        Bool.and_self]

/-- The text of a number holds no other characters. -/
theorem notMem_text {c : Char} (h : isGlyph c = false) (n : Number) : c ∉ n.text.toList := by
  intro mem
  have glyph := List.all_eq_true.mp n.text_all_isGlyph c mem
  rw [h] at glyph
  cases glyph

end Number

end PullQuota
