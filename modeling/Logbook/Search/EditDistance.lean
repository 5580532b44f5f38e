/-!
# Edit distance

The least number of insertions, deletions and substitutions of single characters that turn one text
into another, by the table of the distances between their beginnings, of which one row is kept.
-/

namespace Logbook

/-- The rest of a row of the table: `left` is the entry before it, `above` the row above from that
    entry on, and `c` the character of the row. -/
def distanceRow (c : Char) (left : Nat) : List Char → List Nat → List Nat
  | d :: ds, diagonal :: up :: above =>
    let here := min (min (up + 1) (left + 1)) (diagonal + if c = d then 0 else 1)
    here :: distanceRow c here ds (up :: above)
  | _, _ => []

/-- The row below a row of the table, for the character `c`. -/
def nextRow (b : List Char) (above : List Nat) (c : Char) : List Nat :=
  let left := above.headD 0 + 1
  left :: distanceRow c left b above

/-- The edit distance of two texts. -/
def editDistance (a b : List Char) : Nat :=
  (a.foldl (nextRow b) (List.range (b.length + 1))).getLastD 0

end Logbook
