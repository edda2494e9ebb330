/-!
UTF-8 bytes of a text, and the text of any bytes. Each longest beginning of a character that breaks
off reads as one U+FFFD.
-/

namespace PullQuota

namespace Utf8

def encode (s : String) : List UInt8 :=
  s.toList.flatMap String.utf8EncodeChar

/-- A character whose first bytes have been read: how many are missing, the bits so far, and the
bounds of the next byte. -/
structure Pending where
  missing : Nat
  bits : Nat
  low : Nat
  high : Nat

inductive Step
  | char (c : Char)
  | more (pending : Pending)
  | bad

/-- The first byte of a character. The bounds of the second leave out long forms, surrogates and
values above U+10FFFF. -/
def start (byte : UInt8) : Step :=
  let n := byte.toNat
  if n < 0x80 then .char (Char.ofNat n)
  else if 0xC2 ≤ n ∧ n ≤ 0xDF then .more ⟨1, n - 0xC0, 0x80, 0xBF⟩
  else if 0xE0 ≤ n ∧ n ≤ 0xEF then
    .more ⟨2, n - 0xE0, if n = 0xE0 then 0xA0 else 0x80, if n = 0xED then 0x9F else 0xBF⟩
  else if 0xF0 ≤ n ∧ n ≤ 0xF4 then
    .more ⟨3, n - 0xF0, if n = 0xF0 then 0x90 else 0x80, if n = 0xF4 then 0x8F else 0xBF⟩
  else .bad

def follow (pending : Pending) (byte : UInt8) : Step :=
  let n := byte.toNat
  if pending.low ≤ n ∧ n ≤ pending.high then
    let bits := pending.bits * 64 + (n - 0x80)
    if pending.missing = 1 then .char (Char.ofNat bits)
    else .more ⟨pending.missing - 1, bits, 0x80, 0xBF⟩
  else .bad

def unreadable : Char := '\uFFFD'

/-- The characters of a step and of what comes after it. -/
def Step.emit (next : Option Pending → List Char) : Step → List Char
  | .char c => c :: next none
  | .more pending => next (some pending)
  | .bad => unreadable :: next none

/-- A byte that cannot go on with a character ends it unread and is looked at as a first byte. -/
def decodeFrom : Option Pending → List UInt8 → List Char
  | none, [] => []
  | some _, [] => [unreadable]
  | none, byte :: rest => (start byte).emit (decodeFrom · rest)
  | some pending, byte :: rest =>
    match follow pending byte with
    | .bad => unreadable :: (start byte).emit (decodeFrom · rest)
    | step => step.emit (decodeFrom · rest)

def decode (bytes : List UInt8) : String :=
  String.ofList (decodeFrom none bytes)

/-- The bytes without a byte order mark at their start. -/
def dropMark : List UInt8 → List UInt8
  | 0xEF :: 0xBB :: 0xBF :: rest => rest
  | bytes => bytes

end Utf8

end PullQuota
