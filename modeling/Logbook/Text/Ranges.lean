import Logbook.Text.Blank

/-!
# Sets of code points

A property of characters, such as being a letter, holds of many characters that lie in
comparatively few unbroken runs. A `CodeRanges` is the ascending list of those runs, and
`CodeRanges.contains` looks a code point up by halving.

The tables of this library write a set down as a text of numbers in base 36, separated by blanks:
in turn, for every run, the distance of its first code point from the last one of the run before
it, and the distance from its first code point to its last. `CodeRanges.ofText` reads such a text.
-/

namespace Logbook

/-- A set of code points, as its maximal runs in ascending order. -/
structure CodeRanges where
  /-- The first and the last code point of every run. -/
  runs : Array (Nat × Nat)
  deriving DecidableEq, Inhabited

namespace CodeRanges

/-- The value of a digit in base 36. -/
def digit (c : Char) : Nat :=
  if c.isDigit then c.toNat - '0'.toNat else c.toNat - 'a'.toNat + 10

/-- The number that digits in base 36 write. -/
def number (digits : List Char) : Nat :=
  digits.foldl (fun n c => n * 36 + digit c) 0

/-- The numbers that a text in base 36 holds, in order. -/
def numbers (text : String) : List Nat :=
  (Text.words text.toList).map number

/-- The runs that a list of distances stands for, when the run before them ended at `prior`. -/
def runsFrom (prior : Nat) : List Nat → List (Nat × Nat)
  | gap :: length :: rest =>
    (prior + gap, prior + gap + length) :: runsFrom (prior + gap + length) rest
  | _ => []

/-- Reads the written form of a set. -/
def ofText (text : String) : CodeRanges :=
  ⟨(runsFrom 0 (numbers text)).toArray⟩

/-- Whether one of the runs numbered `lo` up to `hi` (exclusive) holds `code`. -/
def holds (runs : Array (Nat × Nat)) (code lo hi : Nat) : Bool :=
  if lo < hi then
    let mid := (lo + hi) / 2
    match runs[mid]? with
    | none => false
    | some (first, last) =>
      if code < first then holds runs code lo mid
      else if last < code then holds runs code (mid + 1) hi
      else true
  else false
termination_by hi - lo

/-- Whether the set holds the code point. -/
def contains (s : CodeRanges) (code : Nat) : Bool :=
  holds s.runs code 0 s.runs.size

end CodeRanges

end Logbook
