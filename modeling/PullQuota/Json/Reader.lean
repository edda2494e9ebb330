import PullQuota.Json.Basic
import PullQuota.Text.Hex

/-!
Strict JSON reading: one value, with blanks around tokens, and nothing after it.
-/

namespace PullQuota

namespace Json

def isSpace (c : Char) : Bool :=
  c == ' ' || c == '\t' || c == '\n' || c == '\r'

def skipSpace (cs : List Char) : List Char :=
  cs.dropWhile isSpace

/-- The code unit of four hexadecimal digits, and the text after them. -/
def readUnit? : List Char → Option (Nat × List Char)
  | a :: b :: c :: d :: rest => do
    let a ← Hex.value? a
    let b ← Hex.value? b
    let c ← Hex.value? c
    let d ← Hex.value? d
    some (((a * 16 + b) * 16 + c) * 16 + d, rest)
  | _ => none

def unpaired : Char := '\uFFFD'

/-- The character of a code unit that an escape named. The second half of a surrogate pair is in an
escape of its own; a half without the other reads as U+FFFD. -/
def pairUnit (unit : Nat) (rest : List Char) : Char × List Char :=
  if 0xD800 ≤ unit ∧ unit < 0xDC00 then
    match rest with
    | '\\' :: 'u' :: more =>
      match readUnit? more with
      | some (low, more) =>
        if 0xDC00 ≤ low ∧ low < 0xE000 then
          (Char.ofNat (0x10000 + (unit - 0xD800) * 0x400 + (low - 0xDC00)), more)
        else (unpaired, rest)
      | none => (unpaired, rest)
    | _ => (unpaired, rest)
  else if 0xDC00 ≤ unit ∧ unit < 0xE000 then (unpaired, rest)
  else (Char.ofNat unit, rest)

/-- The character that an escape names, from the text after its backslash. -/
def readEscape : List Char → Option (Char × List Char)
  | '"' :: rest => some ('"', rest)
  | '\\' :: rest => some ('\\', rest)
  | '/' :: rest => some ('/', rest)
  | 'b' :: rest => some ('\x08', rest)
  | 'f' :: rest => some ('\x0c', rest)
  | 'n' :: rest => some ('\n', rest)
  | 'r' :: rest => some ('\r', rest)
  | 't' :: rest => some ('\t', rest)
  | 'u' :: rest => (readUnit? rest).map fun (unit, rest) => pairUnit unit rest
  | _ => none

/-- The characters up to the closing quote, and the text after it. -/
def readQuoted : Nat → List Char → Option (List Char × List Char)
  | 0, _ => none
  | _ + 1, [] => none
  | fuel + 1, c :: rest =>
    if c = '"' then some ([], rest)
    else if c = '\\' then do
      let (c, rest) ← readEscape rest
      let (cs, rest) ← readQuoted fuel rest
      some (c :: cs, rest)
    else if c.toNat < 0x20 then none
    else do
      let (cs, rest) ← readQuoted fuel rest
      some (c :: cs, rest)

/-- A string, from the text after its opening quote. -/
def readString (cs : List Char) : Option (String × List Char) :=
  (readQuoted (cs.length + 1) cs).map fun (cs, rest) => (String.ofList cs, rest)

def readDigits (cs : List Char) : List Char × List Char :=
  (cs.takeWhile Char.isDigit, cs.dropWhile Char.isDigit)

/-- The digits of a whole part: a single zero, or digits that start with none. -/
def readWhole : List Char → Option (List Char × List Char)
  | '0' :: rest => some (['0'], rest)
  | cs => if (readDigits cs).1 = [] then none else some (readDigits cs)

/-- The digits after a decimal point, if there is one. -/
def readFraction : List Char → Option (List Char × List Char)
  | '.' :: rest => if (readDigits rest).1 = [] then none else some (readDigits rest)
  | cs => some ([], cs)

def readSign : List Char → Bool × List Char
  | '-' :: rest => (true, rest)
  | '+' :: rest => (false, rest)
  | cs => (false, cs)

/-- The power of ten after a number's digits; zero if none is given. -/
def readExponent : List Char → Option (Int × List Char)
  | [] => some (0, [])
  | c :: rest =>
    if c = 'e' ∨ c = 'E' then
      let (negative, rest) := readSign rest
      let (digits, rest) := readDigits rest
      if digits = [] then none
      else some (if negative then -(decimalValue digits : Int) else decimalValue digits, rest)
    else some (0, c :: rest)

/-- A number without its sign. -/
def readMagnitude (negative : Bool) (cs : List Char) : Option (Number × List Char) := do
  let (whole, rest) ← readWhole cs
  let (fraction, rest) ← readFraction rest
  let (exponent, rest) ← readExponent rest
  let digits := decimalValue (whole ++ fraction)
  some (Number.ofDecimal negative digits (exponent - fraction.length), rest)

def readNumber : List Char → Option (Number × List Char)
  | '-' :: rest => readMagnitude true rest
  | cs => readMagnitude false cs

/-- The text after a word. -/
def dropWord (word : List Char) (cs : List Char) : Option (List Char) :=
  if word.isPrefixOf cs then some (cs.drop word.length) else none

mutual

/-- A value, from the text at its first character or the blanks before it. -/
def readValue : Nat → List Char → Option (Json × List Char)
  | 0, _ => none
  | fuel + 1, cs =>
    match skipSpace cs with
    | [] => none
    | c :: rest =>
      if c = '"' then (readString rest).map fun (s, rest) => (string s, rest)
      else if c = '[' then
        match skipSpace rest with
        | ']' :: rest => some (array [], rest)
        | rest => (readItems fuel rest).map fun (items, rest) => (array items, rest)
      else if c = '{' then
        match skipSpace rest with
        | '}' :: rest => some (object [], rest)
        | rest => (readMembers fuel rest).map fun (members, rest) => (ofMembers members, rest)
      else if c = 't' then (dropWord "rue".toList rest).map fun rest => (bool true, rest)
      else if c = 'f' then (dropWord "alse".toList rest).map fun rest => (bool false, rest)
      else if c = 'n' then (dropWord "ull".toList rest).map fun rest => (null, rest)
      else (readNumber (c :: rest)).map fun (n, rest) => (number n, rest)

/-- The items of an array that has some, up to the closing bracket. -/
def readItems : Nat → List Char → Option (List Json × List Char)
  | 0, _ => none
  | fuel + 1, cs => do
    let (item, rest) ← readValue fuel cs
    match skipSpace rest with
    | ']' :: rest => some ([item], rest)
    | ',' :: rest =>
      let (items, rest) ← readItems fuel rest
      some (item :: items, rest)
    | _ => none

/-- The members of an object that has some, up to the closing brace. -/
def readMembers : Nat → List Char → Option (List (String × Json) × List Char)
  | 0, _ => none
  | fuel + 1, cs =>
    match skipSpace cs with
    | '"' :: rest => do
      let (name, rest) ← readString rest
      match skipSpace rest with
      | ':' :: rest =>
        let (value, rest) ← readValue fuel rest
        match skipSpace rest with
        | '}' :: rest => some ([(name, value)], rest)
        | ',' :: rest =>
          let (members, rest) ← readMembers fuel rest
          some ((name, value) :: members, rest)
        | _ => none
      | _ => none
    | _ => none

end

/-- The value of a JSON text. Each character needs at most two steps. -/
def parse? (s : String) : Option Json :=
  match readValue (2 * s.toList.length + 2) s.toList with
  | some (value, rest) => if skipSpace rest = [] then some value else none
  | none => none

end Json

end PullQuota
