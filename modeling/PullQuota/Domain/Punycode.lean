/-!
Punycode: the text of a label beyond ASCII, written with letters, digits and hyphens. Each insertion
of a character is a number of base 36, least digit first, whose digits end below a threshold that
follows the numbers before.
-/

namespace PullQuota

namespace Punycode

def digit? (c : Char) : Option Nat :=
  let n := c.toNat
  if 'a'.toNat ≤ n ∧ n ≤ 'z'.toNat then some (n - 'a'.toNat)
  else if '0'.toNat ≤ n ∧ n ≤ '9'.toNat then some (n - '0'.toNat + 26)
  else none

/-- The threshold of the digit at a place, for a bias. A digit below it is the last one. -/
def threshold (place bias : Nat) : Nat :=
  min 26 (max 1 (36 * (place + 1) - bias))

/-- How often 35 divides out of a distance until at most 455 is left, and what is left. -/
def scaleDown (distance : Nat) : Nat × Nat :=
  if 455 < distance then
    let (count, rest) := scaleDown (distance / 35)
    (count + 1, rest)
  else (0, distance)
termination_by distance
decreasing_by exact Nat.div_lt_self (by omega) (by decide)

/-- The bias after an insertion over a distance, into a text that then has `length` characters. -/
def adapt (distance length : Nat) (isFirst : Bool) : Nat :=
  let distance := if isFirst then distance / 700 else distance / 2
  let (count, rest) := scaleDown (distance + distance / length)
  36 * count + 36 * rest / (rest + 38)

/-- Characters that are known, and the place and code point that the next number counts on from. -/
structure Progress where
  text : List Char
  code : Nat
  place : Nat
  bias : Nat

/-- Inserts the character that lies at a distance. -/
def Progress.insert? (p : Progress) (distance : Nat) : Option Progress :=
  let length := p.text.length + 1
  let code := p.code + (p.place + distance) / length
  let place := (p.place + distance) % length
  if code.isValidChar then
    some ⟨p.text.insertIdx place (Char.ofNat code), code, place + 1,
      adapt distance length (p.place == 0)⟩
  else none

/-- Reads on within a number, of which the value so far, the weight of the next digit and its place
are known. -/
def decodeFrom (p : Progress) (value weight place : Nat) : List Char → Option (List Char)
  | [] => if place = 0 then some p.text else none
  | c :: rest =>
    match digit? c with
    | none => none
    | some digit =>
      let value := value + digit * weight
      let threshold := threshold place p.bias
      if digit < threshold then
        match p.insert? value with
        | none => none
        | some p => decodeFrom p 0 1 0 rest
      else decodeFrom p value (weight * (36 - threshold)) (place + 1) rest

/-- What stands before the last hyphen is the text without insertions. -/
def decode? (cs : List Char) : Option (List Char) :=
  let code := (cs.reverse.takeWhile (· != '-')).reverse
  let plain := (cs.take (cs.length - code.length)).dropLast
  if plain.all (·.toNat < 128) then decodeFrom ⟨plain, 128, 0, 72⟩ 0 1 0 code else none

example : decode? "bcher-kva".toList = some "bücher".toList := by decide

example : decode? "a".toList = some ['\u0080'] := by decide

end Punycode

end PullQuota
