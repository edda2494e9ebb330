import PullQuota.Number.Decimal

/-!
JSON values, and the text of a value outside of JSON.
-/

namespace PullQuota

inductive Json
  | null
  | bool (value : Bool)
  | number (value : Number)
  | string (value : String)
  | array (items : List Json)
  | object (members : List (String × Json))

namespace Json

mutual

def decEq : (a b : Json) → Decidable (a = b)
  | null, null => isTrue rfl
  | bool a, bool b => decidable_of_iff (a = b) (by simp)
  | number a, number b => decidable_of_iff (a = b) (by simp)
  | string a, string b => decidable_of_iff (a = b) (by simp)
  | array a, array b =>
    match decEqItems a b with
    | isTrue h => isTrue (congrArg array h)
    | isFalse h => isFalse fun e => h (array.inj e)
  | object a, object b =>
    match decEqMembers a b with
    | isTrue h => isTrue (congrArg object h)
    | isFalse h => isFalse fun e => h (object.inj e)
  | null, bool _ | null, number _ | null, string _ | null, array _ | null, object _
  | bool _, null | bool _, number _ | bool _, string _ | bool _, array _ | bool _, object _
  | number _, null | number _, bool _ | number _, string _ | number _, array _ | number _, object _
  | string _, null | string _, bool _ | string _, number _ | string _, array _ | string _, object _
  | array _, null | array _, bool _ | array _, number _ | array _, string _ | array _, object _
  | object _, null | object _, bool _ | object _, number _ | object _, string _
  | object _, array _ => isFalse nofun

def decEqItems : (a b : List Json) → Decidable (a = b)
  | [], [] => isTrue rfl
  | [], _ :: _ | _ :: _, [] => isFalse nofun
  | a :: as, b :: bs =>
    match decEq a b, decEqItems as bs with
    | isTrue h, isTrue hs => isTrue (by rw [h, hs])
    | isFalse h, _ => isFalse fun e => h (List.cons.inj e).1
    | _, isFalse h => isFalse fun e => h (List.cons.inj e).2

def decEqMembers : (a b : List (String × Json)) → Decidable (a = b)
  | [], [] => isTrue rfl
  | [], _ :: _ | _ :: _, [] => isFalse nofun
  | (m, a) :: as, (n, b) :: bs =>
    match decEq a b, decEqMembers as bs with
    | isTrue h, isTrue hs =>
      decidable_of_iff (m = n)
        ⟨fun e => by rw [e, h, hs], fun e => congrArg (·.1) (List.cons.inj e).1⟩
    | isFalse h, _ => isFalse fun e => h (congrArg (·.2) (List.cons.inj e).1)
    | _, isFalse h => isFalse fun e => h (List.cons.inj e).2

end

instance : DecidableEq Json := decEq

/-- The member of a name in a list of members. -/
def memberOf (name : String) (members : List (String × Json)) : Option Json :=
  (members.find? (·.1 == name)).map (·.2)

/-- The member of a name; only an object has any. -/
def get? (name : String) : Json → Option Json
  | object members => memberOf name members
  | _ => none

def isObject : Json → Bool
  | object _ => true
  | _ => false

/-- Sets a member: a new name comes last, a known one keeps its place. -/
def put (members : List (String × Json)) (name : String) (value : Json) : List (String × Json) :=
  if members.any (·.1 == name) then
    members.map fun member => if member.1 == name then (name, value) else member
  else members ++ [(name, value)]

/-- The object that a list of members describes; of members of one name the last counts. -/
def ofMembers (members : List (String × Json)) : Json :=
  object (members.foldl (fun known member => put known member.1 member.2) [])

mutual

/-- The plain text of a value: strings without quotes, arrays as their items with commas between. An
object has the same text as any other, unless a member takes its place. -/
def plainText? : Json → Option String
  | null => some "null"
  | bool value => some (if value then "true" else "false")
  | number value => some value.text
  | string value => some value
  | array items => plainItems? items
  | object members => if (memberOf "toString" members).isSome then none else some "[object Object]"

/-- The plain texts of items with commas between them; nulls leave their places empty. -/
def plainItems? : List Json → Option String
  | [] => some ""
  | item :: rest => do
    let first ← match item with
      | null => some ""
      | _ => plainText? item
    match rest with
    | [] => some first
    | _ :: _ => (plainItems? rest).map (first ++ "," ++ ·)

end

end Json

end PullQuota
