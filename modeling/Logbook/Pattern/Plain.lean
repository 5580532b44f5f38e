import Logbook.Pattern.Basic

/-!
# Plain forms of patterns

A pattern can be written in many ways that come to the same. The functions of this module put
patterns together in a plain form:

* what is one after another or one or another is never nested in the same, and neighbouring texts
  are one text (`concat`, `alternation`);
* a choice of single characters is a set, and a set of one character is a text;
* what all choices begin with stands in front of the choice;
* what only the empty text can match is repeated at most once (`repetition`).
-/

namespace Logbook.Pattern

/-! ## Lengths -/

/-- The least number of characters of a match, if there can be one. -/
def minLength : Pattern → Option Nat
  | .empty | .look _ => some 0
  | .text cs => some cs.length
  | .char s => if s.runs.isEmpty then none else some 1
  | .group _ p => p.minLength
  | .seq p q => do return (← p.minLength) + (← q.minLength)
  | .alt p q => do return min (← p.minLength) (← q.minLength)
  | .repeat least _ _ p => do return least * (← p.minLength)

/-- The greatest number of characters of a match, if there is one. -/
def maxLength : Pattern → Option Nat
  | .empty | .look _ => some 0
  | .text cs => some cs.length
  | .char s => if s.runs.isEmpty then none else some 1
  | .group _ p => p.maxLength
  | .seq p q => do return (← p.maxLength) + (← q.maxLength)
  | .alt p q => do return max (← p.maxLength) (← q.maxLength)
  | .repeat _ most _ p => do return (← most) * (← p.maxLength)

/-! ## One after another -/

/-- The patterns that are matched one after another. -/
def parts : Pattern → List Pattern
  | .seq p q => p :: q.parts
  | .empty => []
  | p => [p]

/-- Makes neighbouring texts one. -/
def glued : List Pattern → List Pattern
  | [] => []
  | .text cs :: ps =>
    match glued ps with
    | .text ds :: qs => .text (cs ++ ds) :: qs
    | qs => .text cs :: qs
  | p :: ps => p :: glued ps

/-- The patterns of a list one after another. -/
def sequence : List Pattern → Pattern
  | [] => .empty
  | [p] => p
  | p :: ps => .seq p (sequence ps)

/-- The patterns of a list one after another, in plain form. -/
def concat (ps : List Pattern) : Pattern :=
  sequence (glued (ps.flatMap parts))

/-! ## One or another -/

/-- A character of a set, in plain form. -/
def ofSet (s : CharSet) : Pattern :=
  match s.only? with
  | some code => .text [Char.ofNat code]
  | none => .char s

/-- The set of a pattern that matches the characters of a set. -/
def set? : Pattern → Option CharSet
  | .char s => some s
  | .text [c] => some (.single c.toNat)
  | _ => none

/-- The patterns of which one is matched. -/
def choices : Pattern → List Pattern
  | .alt p q => p :: q.choices
  | p => [p]

/-- One of the patterns of a list. -/
def choice : List Pattern → Pattern
  | [] => .char .empty
  | [p] => p
  | p :: ps => .alt p (choice ps)

/-- One of the patterns of a list; a set, if each of them matches the characters of one. -/
def choiceOrSet (ps : List Pattern) : Pattern :=
  match ps.flatMap choices with
  | [p] => p
  | ps =>
    match ps.mapM set? with
    | some sets => ofSet (.unions sets)
    | none => choice ps

/-- What two lists begin with alike. -/
def commonStart : List Pattern → List Pattern → List Pattern
  | p :: ps, q :: qs => if p = q then p :: commonStart ps qs else []
  | _, _ => []

/-- What every one of some lists begins with. -/
def commonStartOf : List (List Pattern) → List Pattern
  | [] => []
  | ps :: rest => rest.foldl commonStart ps

/-- One of the patterns of a list, in plain form. -/
def alternation (ps : List Pattern) : Pattern :=
  match choiceOrSet ps with
  | .alt p q =>
    let lists := (Pattern.alt p q).choices.map parts
    let start := if lists.all (1 < ·.length) then commonStartOf lists else []
    if start.isEmpty then .alt p q
    else concat (start ++ [choiceOrSet (lists.map fun ps => concat (ps.drop start.length))])
  | p => p

/-! ## Repetition -/

/-- A pattern over and over, in plain form. -/
def repetition (least : Nat) (most : Option Nat) (lazy : Bool) (p : Pattern) : Pattern :=
  let onlyEmpty := p.maxLength = some 0
  let least := if onlyEmpty then min least 1 else least
  let most := if onlyEmpty then some (most.elim 1 (min · 1)) else most
  if least = 0 && most = some 0 then .empty
  else if least = 1 && most = some 1 then p
  else .repeat least most lazy p

/-! ## Anchors -/

/-- Whether every match begins where the condition holds, as far as it can be seen. -/
def leads (l : Look) : Pattern → Bool
  | .look k => k = l
  | .group _ p => leads l p
  | .seq p q => leads l p || (p.maxLength = some 0 && leads l q)
  | .alt p q => leads l p && leads l q
  | .repeat least _ _ p => 0 < least && leads l p
  | _ => false

/-- Whether every match ends where the condition holds, as far as it can be seen. -/
def trails (l : Look) : Pattern → Bool
  | .look k => k = l
  | .group _ p => trails l p
  | .seq p q => trails l q || (q.maxLength = some 0 && trails l p)
  | .alt p q => trails l p && trails l q
  | .repeat least _ _ p => 0 < least && trails l p
  | _ => false

end Logbook.Pattern
