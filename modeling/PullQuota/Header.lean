import PullQuota.Text.Blank

/-!
Header fields of a response. Names are compared without regard to letter case, and the values of one
name count together.
-/

namespace PullQuota

abbrev Headers := List (String × String)

/-- The characters of a field name: letters, digits and the marks that separate nothing. -/
def isNameChar (c : Char) : Bool :=
  c.isAlphanum || "!#$%&'*+-.^_`|~".toList.contains c

structure FieldName where
  text : String
  valid : text.toList ≠ [] ∧ text.toList.all isNameChar = true
  deriving DecidableEq

def FieldName.ofString? (text : String) : Option FieldName :=
  if h : text.toList ≠ [] ∧ text.toList.all isNameChar = true then some ⟨text, h⟩ else none

def sameName (a b : String) : Bool :=
  a.toList.map Char.toLower == b.toList.map Char.toLower

def isFieldSpace (c : Char) : Bool :=
  c == ' ' || c == '\t' || c == '\n' || c == '\r'

namespace Headers

def values (headers : Headers) (name : String) : List String :=
  (headers.filter fun field => sameName field.1 name).map fun field => strip isFieldSpace field.2

/-- The values of a name, joined in their order. -/
def get? (headers : Headers) (name : FieldName) : Option String :=
  match headers.values name.text with
  | [] => none
  | values => some (", ".intercalate values)

end Headers

end PullQuota
