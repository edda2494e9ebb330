import PullQuota.Json.Basic
import PullQuota.Text.Hex

/-!
Compact JSON text of a value.
-/

namespace PullQuota

namespace Json

/-- A character inside quotes. Quotes, backslashes and control characters are escaped, all else
stands for itself. -/
def escapeChar (c : Char) : List Char :=
  if c = '"' then ['\\', '"']
  else if c = '\\' then ['\\', '\\']
  else if c = '\n' then ['\\', 'n']
  else if c = '\r' then ['\\', 'r']
  else if c = '\t' then ['\\', 't']
  else if c = '\x08' then ['\\', 'b']
  else if c = '\x0c' then ['\\', 'f']
  else if c.toNat < 0x20 then
    ['\\', 'u', '0', '0', Hex.lower (c.toNat / 16), Hex.lower (c.toNat % 16)]
  else [c]

def quote (s : String) : List Char :=
  '"' :: s.toList.flatMap escapeChar ++ ['"']

/-- An infinite number has no JSON text and becomes null. -/
def numberChars : Number → List Char
  | .finite q => Number.finiteText q
  | .infinite _ => "null".toList

mutual

def chars : Json → List Char
  | null => "null".toList
  | bool true => "true".toList
  | bool false => "false".toList
  | number value => numberChars value
  | string value => quote value
  | array [] => ['[', ']']
  | array (item :: rest) => '[' :: chars item ++ moreItems rest
  | object [] => ['{', '}']
  | object ((name, value) :: rest) => '{' :: quote name ++ ':' :: chars value ++ moreMembers rest

/-- The items after the first, each with its comma, and the closing bracket. -/
def moreItems : List Json → List Char
  | [] => [']']
  | item :: rest => ',' :: chars item ++ moreItems rest

/-- The members after the first, each with its comma, and the closing brace. -/
def moreMembers : List (String × Json) → List Char
  | [] => ['}']
  | (name, value) :: rest => ',' :: quote name ++ ':' :: chars value ++ moreMembers rest

end

def write (value : Json) : String :=
  String.ofList value.chars

end Json

end PullQuota
