/-!
Rational arithmetic rounded to binary64: 53 significant bits, the nearest value, a tie to the even
neighbour. Zero has no sign.
-/

namespace PullQuota

/-- The integer nearest to `q`; a half goes to the even neighbour. -/
def nearestEven (q : Rat) : Int :=
  let low := q.floor
  let rest := q - low
  if rest < 1 / 2 then low
  else if 1 / 2 < rest then low + 1
  else if low % 2 = 0 then low
  else low + 1

/-- The integer nearest to `q`; a half goes up. -/
def nearestUp (q : Rat) : Int :=
  (q + 1 / 2).floor

/-- The exponent of the greatest power of two that is at most the positive `q`. -/
def binaryExponent (q : Rat) : Int :=
  let e := (q.num.natAbs.log2 : Int) - q.den.log2
  if (2 : Rat) ^ e ≤ q then e else e - 1

/-- The distance of neighbouring binary64 values around the positive `q`. -/
def binaryUnit (q : Rat) : Rat :=
  (2 : Rat) ^ max (binaryExponent q - 52) (-1074)

def magnitude (q : Rat) : Rat :=
  if q < 0 then -q else q

/-- The value nearest to `q` with 53 significant bits, the range of exponents being unbounded above.
-/
def roundBinary (q : Rat) : Rat :=
  if q = 0 then 0
  else
    let unit := binaryUnit (magnitude q)
    nearestEven (q / unit) * unit

/-- A number of a document or a report. -/
inductive Number
  | finite (value : Rat)
  | infinite (negative : Bool)
  deriving DecidableEq

namespace Number

/-- The binary64 value nearest to `q`; from 2 ^ 1024 on it is infinite. -/
def nearest (q : Rat) : Number :=
  let r := roundBinary q
  if magnitude r < (2 : Rat) ^ (1024 : Int) then finite r else infinite (q < 0)

/-- Goes on with a finite number; an infinite one stays what it is. -/
def andThen (f : Rat → Number) : Number → Number
  | finite q => f q
  | infinite negative => infinite negative

/-- The greatest count: up to it every count and its successor are numbers of their own. -/
def maxCount : Nat := 9007199254740991

/-- The count that a number is, if it is one. -/
def toCount? : Number → Option Nat
  | finite q => if q.den = 1 ∧ 0 ≤ q.num ∧ q.num ≤ maxCount then some q.num.toNat else none
  | infinite _ => none

end Number

end PullQuota
