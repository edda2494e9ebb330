import PullQuota.Text.Blank
import PullQuota.Url.Host

/-!
Which texts are URLs on their own, and the scheme, authority and path of one.
-/

namespace PullQuota

namespace Url

/-- Control characters and spaces at the ends, and tabs and line ends anywhere, do not count. -/
def significant (text : String) : List Char :=
  (stripEnds (·.toNat ≤ 0x20) text.toList).filter fun c => c != '\t' && c != '\n' && c != '\r'

def isSchemeChar (c : Char) : Bool :=
  c.isAlphanum || c == '+' || c == '-' || c == '.'

/-- The scheme in small letters, and the text after its colon. -/
def splitScheme? (cs : List Char) : Option (String × List Char) :=
  match cs.head?, cs.dropWhile isSchemeChar with
  | some c, ':' :: rest =>
    if c.isAlpha then
      some (String.ofList ((cs.takeWhile isSchemeChar).map Char.toLower), rest)
    else none
  | _, _ => none

/-- Schemes whose URLs have a host and a path of segments. -/
def isHierarchical (scheme : String) : Bool :=
  ["http", "https", "ws", "wss", "ftp"].contains scheme

def isSlash (c : Char) : Bool :=
  c == '/' || c == '\\'

def endsAuthority (c : Char) : Bool :=
  isSlash c || c == '?' || c == '#'

/-- The text after the last at sign, and whether there is one. -/
def afterUser (cs : List Char) : Bool × List Char :=
  (cs.contains '@', (cs.reverse.takeWhile (· != '@')).reverse)

/-- Splits a host from the number behind it, at the first colon outside of brackets. -/
def splitPort (inside : Bool) : List Char → List Char × Option (List Char)
  | [] => ([], none)
  | c :: rest =>
    if c = ':' ∧ ¬inside then ([], some rest)
    else
      let (host, number) := splitPort (c == '[' || (inside && c != ']')) rest
      (c :: host, number)

def isPort (cs : List Char) : Bool :=
  cs.all Char.isDigit && decide (decimalValue cs ≤ 65535)

/-- A user, a host and the number of a socket, of which only the host must be there. -/
def isAuthority (isHost : List Char → Bool) (hostless : Bool) (cs : List Char) : Bool :=
  let (user, site) := afterUser cs
  match splitPort false site with
  | (host, some number) => host != [] && isHost host && isPort number
  | (host, none) => if host = [] then hostless && !user else isHost host

/-- The authority of a hierarchical URL stands after any number of slashes. -/
def authority (rest : List Char) : List Char :=
  (rest.dropWhile isSlash).takeWhile (!endsAuthority ·)

def afterAuthority (rest : List Char) : List Char :=
  (rest.dropWhile isSlash).dropWhile (!endsAuthority ·)

/-- A drive letter stands for a host that is not there. -/
def isDrive : List Char → Bool
  | [letter, mark] => letter.isAlpha && (mark == ':' || mark == '|')
  | _ => false

def isFileRest : List Char → Bool
  | a :: b :: rest =>
    if isSlash a ∧ isSlash b then
      let host := rest.takeWhile (!endsAuthority ·)
      host == [] || isDrive host || Host.isHost host
    else true
  | _ => true

/-- Two slashes announce an authority; any other rest is free. -/
def isOpaqueRest : List Char → Bool
  | '/' :: '/' :: rest =>
    isAuthority Host.isOpaqueHost true (rest.takeWhile fun c => c != '/' && c != '?' && c != '#')
  | _ => true

/-- The scheme of a text that is a URL on its own. -/
def scheme? (text : String) : Option String := do
  let (scheme, rest) ← splitScheme? (significant text)
  let accepted :=
    if isHierarchical scheme then isAuthority Host.isHost false (authority rest)
    else if scheme = "file" then isFileRest rest
    else isOpaqueRest rest
  if accepted then some scheme else none

/-- Whether a hierarchical URL names an account in front of its host. -/
def hasAccount (text : String) : Bool :=
  match splitScheme? (significant text) with
  | none => false
  | some (_, rest) => (afterUser (authority rest)).1

/-- The characters that a path holds only as escapes. -/
def isEscapedInPath (c : Char) : Bool :=
  c.toNat ≤ 0x20 || 0x7F ≤ c.toNat || "\"#<>?`\x7b\x7d".toList.contains c

def escapeSegment (cs : List Char) : List Char :=
  cs.flatMap fun c => if isEscapedInPath c then Percent.encodeChar c else [c]

/-- A segment with its escaped dots as dots. -/
def plainDots : List Char → List Char
  | '%' :: '2' :: 'e' :: rest => '.' :: plainDots rest
  | '%' :: '2' :: 'E' :: rest => '.' :: plainDots rest
  | c :: rest => c :: plainDots rest
  | [] => []

/-- Segments in order, last one first, with the dot segments resolved. A dot segment at the end
leaves an empty one. -/
def resolveSegments : List (List Char) → List (List Char) → List (List Char)
  | known, [] => known
  | known, segment :: rest =>
    let dots := plainDots segment
    let known :=
      if dots = ['.', '.'] then known.drop 1
      else if dots = ['.'] then known
      else escapeSegment segment :: known
    let isDots := dots = ['.', '.'] ∨ dots = ['.']
    resolveSegments (if rest = [] ∧ isDots then [] :: known else known) rest

def segments (cs : List Char) : List (List Char) :=
  (cs.map fun c => if isSlash c then '/' else c).splitOn '/'

/-- The path of a hierarchical URL, escaped and without dot segments. -/
def path? (text : String) : Option (List Char) := do
  let (_, rest) ← splitScheme? (significant text)
  let path := (afterAuthority rest).takeWhile fun c => c != '?' && c != '#'
  let resolved := resolveSegments [] (segments (path.drop 1))
  some (resolved.reverse.flatMap ('/' :: ·))

end Url

end PullQuota
