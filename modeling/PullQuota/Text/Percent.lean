import PullQuota.Text.Hex
import PullQuota.Text.Utf8

/-!
Percent escapes. Escapes that follow one another are read together, as UTF-8; such a run is decoded
as a whole or left as it stands.
-/

namespace PullQuota

namespace Percent

/-- The two digits of an escape, and the byte that they name. -/
structure Escape where
  high : Char
  low : Char
  byte : UInt8

def Escape.chars (e : Escape) : List Char :=
  ['%', e.high, e.low]

def escape? (high low : Char) : Option Escape := do
  let h ← Hex.value? high
  let l ← Hex.value? low
  some ⟨high, low, UInt8.ofNat (h * 16 + l)⟩

/-- Escapes as they are written, given last one first. -/
def written (run : List Escape) : List Char :=
  run.reverse.flatMap Escape.chars

/-- The text of a run of escapes, if it is UTF-8. Characters in `keeps` stay escaped. Of a character
that has begun, its escapes are known, last one first, and what is still to come. -/
def decodeRun (keeps : Char → Bool) :
    Option (List Escape × Utf8.Pending) → List Escape → Option (List Char)
  | none, [] => some []
  | some _, [] => none
  | begun, e :: rest =>
    let known := e :: begun.elim [] (·.1)
    match begun.elim (Utf8.start e.byte) fun begun => Utf8.follow begun.2 e.byte with
    | .char c =>
      (decodeRun keeps none rest).map ((if keeps c then written known else [c]) ++ ·)
    | .more pending => decodeRun keeps (some (known, pending)) rest
    | .bad => none

/-- A run, given last escape first. -/
def closeRun (keeps : Char → Bool) (run : List Escape) : List Char :=
  (decodeRun keeps none run.reverse).getD (written run)

/-- Decodes a text whose last read run is `run`, last escape first. -/
def decodeAfter (keeps : Char → Bool) (run : List Escape) : List Char → List Char
  | '%' :: high :: low :: rest =>
    match escape? high low with
    | some e => decodeAfter keeps (e :: run) rest
    | none => closeRun keeps run ++ '%' :: decodeAfter keeps [] (high :: low :: rest)
  | c :: rest => closeRun keeps run ++ c :: decodeAfter keeps [] rest
  | [] => closeRun keeps run

def decode (keeps : Char → Bool) (cs : List Char) : List Char :=
  decodeAfter keeps [] cs

/-- The characters that mean something else when they are not escaped: those between the parts of a
path or a query, and the percent sign. -/
def isReserved (c : Char) : Bool :=
  ";/?:@&=+$,#%".toList.contains c

/-- The bytes of a text in which every escape is a byte. -/
def bytes : List Char → List UInt8
  | '%' :: high :: low :: rest =>
    match escape? high low with
    | some e => e.byte :: bytes rest
    | none => String.utf8EncodeChar '%' ++ bytes (high :: low :: rest)
  | c :: rest => String.utf8EncodeChar c ++ bytes rest
  | [] => []

/-- The escapes of a character's bytes. -/
def encodeChar (c : Char) : List Char :=
  (String.utf8EncodeChar c).flatMap fun byte =>
    ['%', Hex.upper (byte.toNat / 16), Hex.upper (byte.toNat % 16)]

end Percent

end PullQuota
