import Logbook.Text.Ranges

/-!
# Runs of bytes

In UTF-8 a character is written with one to four bytes: a first one that tells how many there are,
and further ones that hold six bits each. The characters of a run are therefore those that are
written with one of a few sequences of runs of bytes (`byteRuns`): each byte comes from its run,
whatever the others are.
-/

namespace Logbook.Text

/-- Runs of bytes, one for each byte of a character. -/
abbrev ByteRuns := List (Nat × Nat)

/-- The bits that a further byte holds, with the mark that makes it one. -/
def furtherByte (bits : Nat) : Nat :=
  0x80 + bits

/-- All further bytes, so many times. -/
def anyFurther (count : Nat) : ByteRuns :=
  List.replicate count (furtherByte 0, furtherByte 0x3F)

/-- The sequences of runs of bytes that write the numbers from the first to the last, with so many
    further bytes; `mark` is added to the first byte. The numbers fall into those that share the
    first byte of the first number, those that share the one of the last, and those between, whose
    further bytes are any. -/
def splitRun (mark : Nat) : Nat → Nat → Nat → List ByteRuns
  | 0, first, last => [[(mark + first, mark + last)]]
  | further + 1, first, last =>
    let size := Nat.pow 64 (further + 1)
    let (firstHigh, firstLow) := (first / size, first % size)
    let (lastHigh, lastLow) := (last / size, last % size)
    let under (high low low' : Nat) : List ByteRuns :=
      (splitRun 0x80 further low low').map ((mark + high, mark + high) :: ·)
    if firstHigh = lastHigh then under firstHigh firstLow lastLow
    else
      let isCut := firstLow ≠ 0
      let isCut' := lastLow ≠ size - 1
      let high := if isCut then firstHigh + 1 else firstHigh
      let high' := if isCut' then lastHigh else lastHigh + 1
      (if isCut then under firstHigh firstLow (size - 1) else []) ++
        (if high < high' then [(mark + high, mark + (high' - 1)) :: anyFurther (further + 1)]
          else []) ++
        (if isCut' then under lastHigh 0 lastLow else [])

/-- The runs of characters that are written with the same number of bytes: their ends, the number
    of further bytes, and the mark of the first byte. The surrogates are no characters. -/
def widths : List (Nat × Nat × Nat × Nat) :=
  [(0, 0x7F, 0, 0), (0x80, 0x7FF, 1, 0xC0), (0x800, 0xD7FF, 2, 0xE0), (0xE000, 0xFFFF, 2, 0xE0),
    (0x10000, 0x10FFFF, 3, 0xF0)]

/-- The sequences of runs of bytes that write the characters from the first to the last, in
    ascending order. -/
def byteRuns (first last : Nat) : List ByteRuns :=
  widths.flatMap fun (low, high, further, mark) =>
    let first := max first low
    let last := min last high
    if first ≤ last then splitRun mark further first last else []

end Logbook.Text
