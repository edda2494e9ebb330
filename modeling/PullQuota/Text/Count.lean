import PullQuota.Number.Decimal
import PullQuota.Text.Blank

/-!
Counts written as digits. They are read as numbers, and only those that a number tells from all
others are counts.
-/

namespace PullQuota

/-- The count that a text holds between blanks: digits only, at most `Number.maxCount`. -/
def parseCount (s : String) : Option Nat :=
  let digits := stripEnds isBlank s.toList
  if digits ≠ [] ∧ digits.all Char.isDigit then
    (Number.nearest (decimalValue digits)).toCount?
  else none

end PullQuota
