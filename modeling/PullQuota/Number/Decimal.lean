import PullQuota.Number.Binary64

/-!
Decimal texts of numbers: reading digits with an exponent, and the shortest digits that read back.
-/

namespace PullQuota

/-- The value of a digit string. -/
def decimalValue (ds : List Char) : Nat :=
  ds.foldl (fun n d => 10 * n + (d.toNat - '0'.toNat)) 0

/-- The digits of `n` without leading zeros. -/
def decimalDigits (n : Nat) : List Char :=
  Nat.toDigits 10 n

namespace Number

/-- The number written as `digits`, then a decimal exponent. Far outside the range of binary64 the
power of ten is not formed. -/
def ofDecimal (negative : Bool) (digits : Nat) (exponent : Int) : Number :=
  let size := (decimalDigits digits).length + exponent
  if digits = 0 ∨ size < -330 then finite 0
  else if 310 < size then infinite negative
  else
    let q : Rat := digits * (10 : Rat) ^ exponent
    nearest (if negative then -q else q)

/-- The number `p` with 10 ^ (p - 1) ≤ q < 10 ^ p, for a positive `q`. -/
def decimalPoint (q : Rat) : Int :=
  if 1 ≤ q then (decimalDigits q.floor.toNat).length
  else
    let p := 1 - ((decimalDigits q⁻¹.floor.toNat).length : Int)
    if (10 : Rat) ^ p ≤ q then p + 1 else p

/-- Of the two neighbours of `q` on a decimal grid, the nearer one that rounds to `q`; of two
equally near ones the even one. -/
def onGrid (q grid : Rat) : Option Nat :=
  let low := (q / grid).floor.toNat
  let rest := q / grid - low
  let near := if rest < 1 / 2 ∨ (rest = 1 / 2 ∧ low % 2 = 0) then low else low + 1
  let far := if near = low then low + 1 else low
  if roundBinary (near * grid) = q then some near
  else if roundBinary (far * grid) = q then some far
  else none

/-- The fewest digits, at least `count`, that round to the positive `q`, with the exponent of their
last place. Seventeen digits are always enough. -/
def shortestFrom (q : Rat) (point : Int) : Nat → Nat → Nat × Int
  | 0, count => ((q / (10 : Rat) ^ (point - count)).floor.toNat, point - count)
  | more + 1, count =>
    match onGrid q ((10 : Rat) ^ (point - count)) with
    | some digits => (digits, point - count)
    | none => shortestFrom q point more (count + 1)

def zeros (n : Nat) : List Char :=
  List.replicate n '0'

/-- Digits laid out around the decimal point: positional up to 21 places before it and down to six
zeros after it, with an exponent otherwise. -/
def layOut (digits : List Char) (point : Int) : List Char :=
  let count : Int := digits.length
  if count ≤ point ∧ point ≤ 21 then digits ++ zeros (point - count).toNat
  else if 0 < point ∧ point ≤ 21 then
    digits.take point.toNat ++ '.' :: digits.drop point.toNat
  else if -6 < point ∧ point ≤ 0 then '0' :: '.' :: zeros (-point).toNat ++ digits
  else
    let exponent := point - 1
    let fraction := digits.drop 1
    digits.take 1 ++ (if fraction = [] then [] else '.' :: fraction) ++ 'e' ::
      (if exponent < 0 then '-' else '+') :: decimalDigits exponent.natAbs

/-- The text of a positive number. -/
def positiveText (q : Rat) : List Char :=
  let (shortest, exponent) := shortestFrom q (decimalPoint q) 17 1
  let digits := decimalDigits shortest
  layOut (digits.reverse.dropWhile (· == '0')).reverse (digits.length + exponent)

/-- The text of a finite number: counts as they are, all else in its shortest digits. -/
def finiteText (q : Rat) : List Char :=
  if q.den = 1 ∧ q.num.natAbs ≤ maxCount then
    (if q < 0 then ['-'] else []) ++ decimalDigits q.num.natAbs
  else (if q < 0 then ['-'] else []) ++ positiveText (magnitude q)

def text : Number → String
  | finite q => String.ofList (finiteText q)
  | infinite negative => if negative then "-Infinity" else "Infinity"

end Number

end PullQuota
