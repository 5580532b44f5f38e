import Logbook.Text.Ranges

/-!
# Named sets of characters

Sets of characters that a pattern may name. A name is looked up in its plain form (`plainName`):
small letters, without blanks, hyphens and underscores, and without `is` in front.
-/

namespace Logbook.Pattern

/-- A set of characters and its names, in their plain form. -/
structure NamedSet where
  /-- The names. -/
  names : List String
  /-- The set. -/
  set : CodeRanges

/-- The set of a name in a list. -/
def setOf? (sets : List NamedSet) (name : String) : Option CodeRanges :=
  (sets.find? fun s => s.names.contains name).map (·.set)

/-- Whether a name begins with `is`, in letters of any case. -/
def startsWithIs : List Char → Bool
  | a :: b :: _ => a.toLower = 'i' && b.toLower = 's'
  | _ => false

/-- The plain form of a name. What is not ASCII is passed over. The name `isc`, which has an `is` in
    front by chance only, stays whole. -/
def plainName (name : List Char) : String :=
  let isPrefixed := startsWithIs name
  let rest := if isPrefixed then name.drop 2 else name
  let kept := rest.filter fun c => c ≠ ' ' && c ≠ '_' && c ≠ '-' && c.toNat < 0x80
  let plain := kept.map Char.toLower
  if isPrefixed && plain = ['c'] then "isc" else String.ofList plain

end Logbook.Pattern
