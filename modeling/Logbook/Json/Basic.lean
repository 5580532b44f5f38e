import Logbook.Number.Double

/-!
# JSON values

A number is an integer, if it was written as one and fits in 64 bits, with a sign or without; any
other number is a finite one in double precision. An object is its list of members, which are kept
in ascending order of their keys, each key once: `Fields.insert` and `Fields.ofList` build such
lists, and of two members with one key the later one stays.
-/

namespace Logbook

/-- A JSON value. -/
inductive Json where
  /-- The value `null`. -/
  | null
  /-- A truth value. -/
  | bool (b : Bool)
  /-- A number that was written as an integer. -/
  | integer (n : Int)
  /-- Any other number. -/
  | real (negative : Bool) (magnitude : Magnitude)
  /-- A text. -/
  | string (s : String)
  /-- A list of values. -/
  | array (items : List Json)
  /-- Named values. -/
  | object (fields : List (String × Json))

/-- The members of an object. -/
abbrev Fields := List (String × Json)

namespace Fields

/-- The value under a key. -/
def get? (fields : Fields) (key : String) : Option Json :=
  fields.lookup key

/-- The members with one more, in its place; a member with its key gives way. -/
def insert (key : String) (value : Json) : Fields → Fields
  | [] => [(key, value)]
  | (k, v) :: rest =>
    if key < k then (key, value) :: (k, v) :: rest
    else if key = k then (key, value) :: rest
    else (k, v) :: insert key value rest

/-- The members of a list, in order and each key once. -/
def ofList (members : List (String × Json)) : Fields :=
  members.foldl (fun fields (k, v) => insert k v fields) []

/-- The value under the first of the keys that has one. -/
def first? (fields : Fields) (keys : List String) : Option Json :=
  keys.findSome? fields.get?

end Fields

namespace Json

instance : Inhabited Json := ⟨.null⟩

/-- The members of an object. -/
def fields? : Json → Option Fields
  | .object fields => some fields
  | _ => none

/-- The text, if the value is one. -/
def string? : Json → Option String
  | .string s => some s
  | _ => none

/-- The value as a signed integer of 64 bits, if it is one. -/
def signed? : Json → Option Int
  | .integer n => if -0x8000000000000000 ≤ n ∧ n < 0x8000000000000000 then some n else none
  | _ => none

/-- The value as an unsigned integer of 64 bits, if it is one. -/
def unsigned? : Json → Option Nat
  | .integer n => if 0 ≤ n ∧ n < 0x10000000000000000 then some n.toNat else none
  | _ => none

/-- The value as a number in double precision, if it is a number. -/
def double? : Json → Option Double
  | .integer n => some (.ofInt n)
  | .real negative m => some (.finite negative m)
  | _ => none

/-- The member of an object under a key. -/
def get? (v : Json) (key : String) : Option Json :=
  v.fields?.bind (·.get? key)

mutual

/-- Whether two values are the same, numbers being compared by value within their kind. -/
def same : Json → Json → Bool
  | .null, .null => true
  | .bool a, .bool b => a = b
  | .integer a, .integer b => a = b
  | .real s a, .real t b => Double.sameValue (.finite s a) (.finite t b)
  | .string a, .string b => a = b
  | .array a, .array b => sameItems a b
  | .object a, .object b => sameFields a b
  | _, _ => false

/-- Whether two lists of values are the same. -/
def sameItems : List Json → List Json → Bool
  | [], [] => true
  | a :: as, b :: bs => same a b && sameItems as bs
  | _, _ => false

/-- Whether two lists of members are the same. -/
def sameFields : List (String × Json) → List (String × Json) → Bool
  | [], [] => true
  | (j, a) :: as, (k, b) :: bs => j = k && same a b && sameFields as bs
  | _, _ => false

end

end Json

end Logbook
