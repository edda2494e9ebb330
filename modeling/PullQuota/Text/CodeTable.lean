import PullQuota.Text.Hex

/-!
Tables of code points, written as fields with blanks between them. `61-7A` is a range and
`100-12E/2` every second code point of one. `41-5A>61` lets 61, 62 and so on stand for the range in
turn, and `2121=74,65,6C` the three values for each code point of the field.
-/

namespace PullQuota

/-- Code points from `first` to `last` at equal steps. The values that stand for the first of them
stand for each, or move on with them. -/
structure CodeRange where
  first : Nat
  last : Nat
  step : Nat
  moving : Bool
  values : List Nat

namespace CodeRange

def contains (r : CodeRange) (n : Nat) : Bool :=
  r.first ≤ n && n ≤ r.last && (n - r.first) % r.step == 0

def valuesAt (r : CodeRange) (n : Nat) : List Nat :=
  if r.moving then r.values.map (· + (n - r.first)) else r.values

def isHexDigit (c : Char) : Bool :=
  (Hex.value? c).isSome

/-- The number at the front of a field, and the rest of the field. -/
def front (cs : List Char) : Nat × List Char :=
  ((cs.takeWhile isHexDigit).foldl (fun n c => 16 * n + (Hex.value? c).getD 0) 0,
    cs.dropWhile isHexDigit)

def readValues (cs : List Char) : List Nat :=
  (cs.splitOn ',').map fun value => (front value).1

def ofField (cs : List Char) : CodeRange :=
  let (first, rest) := front cs
  let (last, rest) :=
    match rest with
    | '-' :: rest => front rest
    | _ => (first, rest)
  let (step, rest) :=
    match rest with
    | '/' :: rest => front rest
    | _ => (1, rest)
  match rest with
  | '>' :: rest => ⟨first, last, step, true, readValues rest⟩
  | '=' :: rest => ⟨first, last, step, false, readValues rest⟩
  | _ => ⟨first, last, step, false, []⟩

end CodeRange

abbrev CodeTable := List CodeRange

namespace CodeTable

def ofText (text : String) : CodeTable :=
  let fields := text.toList.splitOnP fun c => c == ' ' || c == '\n'
  (fields.filter (· != [])).map CodeRange.ofField

def contains (table : CodeTable) (n : Nat) : Bool :=
  table.any (·.contains n)

/-- What stands for a code point, if the table holds it. -/
def values? (table : CodeTable) (n : Nat) : Option (List Nat) :=
  (table.find? (·.contains n)).map (·.valuesAt n)

end CodeTable

end PullQuota
