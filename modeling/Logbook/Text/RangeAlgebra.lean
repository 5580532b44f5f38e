import Logbook.Text.Ranges

/-!
# Operations on sets of code points

The union of sets, what they share, and what one of them has and another lacks. Every result is
again a list of ascending runs that do not touch each other. The surrogates are no characters: a
run may pass over them, but none begins or ends there.
-/

namespace Logbook.CodeRanges

/-- The code point before another one; the surrogates are passed over. -/
def codeBefore (code : Nat) : Nat :=
  if code = 0xE000 then 0xD7FF else code - 1

/-- The code point after another one; the surrogates are passed over. -/
def codeAfter (code : Nat) : Nat :=
  if code = 0xD7FF then 0xE000 else code + 1

/-- Puts a run in front of runs that begin no earlier, and joins it with those that it touches. -/
def joinRun (first last : Nat) : List (Nat × Nat) → List (Nat × Nat)
  | [] => [(first, last)]
  | (f, l) :: runs =>
    if f ≤ last + 1 then joinRun first (max last l) runs else (first, last) :: (f, l) :: runs

/-- The set of the code points of runs, which may stand in any order and overlap. -/
def ofRuns (runs : List (Nat × Nat)) : CodeRanges :=
  let ascending := runs.mergeSort fun a b => decide (a.1 ≤ b.1)
  ⟨(ascending.foldr (fun (f, l) rest => joinRun f l rest) []).toArray⟩

/-- What is left of a run without some ascending runs. -/
def cutRun (first last : Nat) : List (Nat × Nat) → List (Nat × Nat)
  | [] => [(first, last)]
  | (f, l) :: runs =>
    if l < first then cutRun first last runs
    else if last < f then [(first, last)]
    else
      let before := if first < f then [(first, codeBefore f)] else []
      if l < last then before ++ cutRun (codeAfter l) last runs else before

/-- What two runs share. -/
def sharedRun? (a b : Nat × Nat) : Option (Nat × Nat) :=
  let first := max a.1 b.1
  let last := min a.2 b.2
  if first ≤ last then some (first, last) else none

/-- No code point. -/
def empty : CodeRanges := ⟨#[]⟩

/-- All code points. -/
def all : CodeRanges := ⟨#[(0, 0x10FFFF)]⟩

/-- The code points from the first to the last. -/
def range (first last : Nat) : CodeRanges := ⟨#[(first, last)]⟩

/-- One code point. -/
def single (code : Nat) : CodeRanges := range code code

/-- The code points of any of the sets. -/
def unions (sets : List CodeRanges) : CodeRanges :=
  ofRuns (sets.flatMap fun s => s.runs.toList)

/-- The code points of either set. -/
def union (a b : CodeRanges) : CodeRanges :=
  unions [a, b]

/-- The code points of both sets. -/
def inter (a b : CodeRanges) : CodeRanges :=
  ⟨(a.runs.toList.flatMap fun r => b.runs.toList.filterMap (sharedRun? r)).toArray⟩

/-- The code points of the first set that the second lacks. -/
def diff (a b : CodeRanges) : CodeRanges :=
  ⟨(a.runs.toList.flatMap fun (first, last) => cutRun first last b.runs.toList).toArray⟩

/-- The code points of just one of the sets. -/
def symmDiff (a b : CodeRanges) : CodeRanges :=
  union (diff a b) (diff b a)

/-- The code points that the set lacks. -/
def compl (a : CodeRanges) : CodeRanges :=
  diff all a

/-- The only code point of the set, if it has just one. -/
def only? (s : CodeRanges) : Option Nat :=
  match s.runs.toList with
  | [(first, last)] => if first = last then some first else none
  | _ => none

end Logbook.CodeRanges
