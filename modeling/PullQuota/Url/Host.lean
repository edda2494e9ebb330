import PullQuota.Domain.Label
import PullQuota.Number.Decimal
import PullQuota.Text.Percent

/-!
Hosts of a URL: names, IPv4 addresses with decimal, octal and hexadecimal parts, IPv6 addresses.
-/

namespace PullQuota

namespace Host

def isDecimal (cs : List Char) : Bool :=
  cs != [] && cs.all Char.isDigit

/-- The value of digits in a base, if all are digits of that base. -/
def valueIn? (base : Nat) (cs : List Char) : Option Nat :=
  cs.foldl (fun n c => do
    let n ← n
    let d ← Hex.value? c
    if d < base then some (n * base + d) else none) (some 0)

/-- A part of an IPv4 address. A zero in front announces octal digits, with an x hexadecimal ones.
-/
def addressPart? : List Char → Option Nat
  | [] => none
  | '0' :: 'x' :: digits => valueIn? 16 digits
  | '0' :: 'X' :: digits => valueIn? 16 digits
  | ['0'] => some 0
  | '0' :: digits => valueIn? 8 digits
  | digits => valueIn? 10 digits

/-- The parts between dots; an empty one after the last dot does not count. -/
def dotted (cs : List Char) : List (List Char) :=
  let parts := cs.splitOn '.'
  if parts.length > 1 ∧ parts.getLast? = some [] then parts.dropLast else parts

/-- A name whose last part is a number is an IPv4 address or no host at all. -/
def endsInNumber (cs : List Char) : Bool :=
  match (dotted cs).getLast? with
  | none => false
  | some last => isDecimal last || (addressPart? last).isSome

/-- At most four parts; each but the last is a byte, and the last fills what is left. -/
def isIpv4 (cs : List Char) : Bool :=
  let parts := dotted cs
  match (parts.map addressPart?).reverse with
  | some last :: others =>
    decide (parts.length ≤ 4) &&
      others.all (fun part => part.any (· ≤ 255)) &&
      decide (last < Nat.pow 256 (5 - parts.length))
  | _ => false

/-- The places that a group of an IPv6 address takes. A dotted address takes two. -/
def groupPlaces? (last : Bool) (group : List Char) : Option Nat :=
  if group ≠ [] ∧ group.length ≤ 4 ∧ group.all (fun c => (Hex.value? c).isSome) then some 1
  else
    let parts := group.splitOn '.'
    let isByte (part : List Char) : Bool :=
      isDecimal part && (part.length == 1 || part.head? != some '0') &&
        decide (decimalValue part ≤ 255)
    if last ∧ parts.length = 4 ∧ parts.all isByte then some 2 else none

def places? (closing : Bool) : List (List Char) → Option Nat
  | [] => some 0
  | [group] => groupPlaces? closing group
  | group :: rest => do
    let n ← groupPlaces? false group
    let m ← places? closing rest
    some (n + m)

/-- The texts before and after the first two colons in a row. -/
def splitGap : List Char → Option (List Char × List Char)
  | ':' :: ':' :: rest => some ([], rest)
  | c :: rest => (splitGap rest).map fun (before, after) => (c :: before, after)
  | [] => none

def groups (cs : List Char) : List (List Char) :=
  if cs = [] then [] else cs.splitOn ':'

/-- Eight places, of which one gap may stand for any number, but for one at least. -/
def isIpv6 (cs : List Char) : Bool :=
  match splitGap cs with
  | none => places? true (groups cs) == some 8
  | some (before, after) =>
    match places? false (groups before), places? true (groups after) with
    | some n, some m => decide (n + m ≤ 7)
    | _, _ => false

/-- The address between square brackets, if the text opens one. -/
def isBracketed : List Char → Bool
  | '[' :: rest => rest.getLast? == some ']' && isIpv6 rest.dropLast
  | _ => false

/-- The characters that end a host or another part of a URL, and those that are never shown. -/
def isForbidden (c : Char) : Bool :=
  c.toNat == 0 || "\t\n\r #/:<>?@[\\]^|".toList.contains c

def isForbiddenInName (c : Char) : Bool :=
  isForbidden c || c.toNat < 0x20 || c.toNat == 0x7F || c == '%'

/-- A host of a URL whose scheme has hosts of its own kind: escapes are decoded first. -/
def isHost (cs : List Char) : Bool :=
  if cs.head? = some '[' then isBracketed cs
  else
    match Domain.ofText? (Utf8.decodeFrom none (Percent.bytes cs)) with
    | none => false
    | some name =>
      name != [] && !name.any isForbiddenInName && (!endsInNumber name || isIpv4 name)

/-- A host of any other URL. -/
def isOpaqueHost (cs : List Char) : Bool :=
  if cs.head? = some '[' then isBracketed cs else !cs.any isForbidden

end Host

end PullQuota
