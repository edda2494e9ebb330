/-!
Blank characters and the cutting of unwanted characters from the ends of a text.
-/

namespace PullQuota

/-- Space separators, line ends, tabs and the byte order mark. -/
def isBlank (c : Char) : Bool :=
  let n := c.toNat
  (9 ≤ n && n ≤ 13) || n == 0x20 || n == 0xA0 || n == 0x1680 || (0x2000 ≤ n && n ≤ 0x200A) ||
    n == 0x2028 || n == 0x2029 || n == 0x202F || n == 0x205F || n == 0x3000 || n == 0xFEFF

def stripEnds (p : Char → Bool) (cs : List Char) : List Char :=
  ((cs.dropWhile p).reverse.dropWhile p).reverse

def strip (p : Char → Bool) (s : String) : String :=
  String.ofList (stripEnds p s.toList)

/-- A text without the blanks at its ends. -/
def trim (s : String) : String :=
  strip isBlank s

end PullQuota
