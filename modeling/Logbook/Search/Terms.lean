import Logbook.Text.Blank
import Logbook.Text.Case

/-!
# Search terms

Free text is looked for by its terms, in small letters: the phrases between double quotes, which
have to stand in a text as they are, and the stems of the words outside of quotes. The word
`unknown` is no term but asks for entries of which something could not be told.

Quotes pair up from the left. Of an odd number of quotes the last one pairs with none and only
separates words.
-/

namespace Logbook

/-- Whether a character separates words. -/
def isSeparator (c : Char) : Bool :=
  Text.isBlank c || ",;:!?()[]\x7b\x7d<>\"'|".toList.contains c

/-! ## Stems -/

/-- The endings of which a word loses at most one, in the order in which they are tried. -/
def endings : List (List Char) :=
  ["ing", "ies", "ied", "es", "ed", "ly", "s"].map String.toList

/-- Whether a word may lose an ending: at least two characters stay. -/
def canLose (word ending : List Char) : Bool :=
  ending.isSuffixOf word && ending.length + 2 ≤ word.length

/-- A word without its ending. -/
def stem (word : List Char) : List Char :=
  match endings.find? (canLose word) with
  | some ending => word.take (word.length - ending.length)
  | none => word

/-! ## Terms -/

/-- What free text asks for. -/
structure SearchTerms where
  /-- The stems of the words, each once. -/
  tokens : List (List Char)
  /-- The phrases. -/
  phrases : List (List Char)
  /-- Whether entries are asked for of which something could not be told. -/
  unknown : Bool
  deriving DecidableEq, Inhabited

namespace SearchTerms

/-- The word that asks for entries of which something could not be told. -/
def unknownWord : List Char :=
  "unknown".toList

/-- Whether there is a stem or a phrase. -/
def hasTerms (t : SearchTerms) : Bool :=
  !t.tokens.isEmpty || !t.phrases.isEmpty

/-- Whether nothing is asked for. -/
def isEmpty (t : SearchTerms) : Bool :=
  !t.hasTerms && !t.unknown

/-- The pieces of a text between its quotes, told apart: those outside of quotes and those
    inside. -/
def unquoted : List (List Char) → List (List Char) × List (List Char)
  | outside :: inside :: next :: rest =>
    let (outer, inner) := unquoted (next :: rest)
    (outside :: outer, inside :: inner)
  | last => (last, [])

/-- The terms of a free text. -/
def ofText (s : String) : SearchTerms :=
  let (outer, inner) := unquoted ((Text.lower s.toList).splitOn '"')
  let words := outer.flatMap (Text.runs isSeparator)
  { tokens := ((words.filter (· ≠ unknownWord)).map stem).eraseDups
    phrases := (inner.map Text.trim).filter (! ·.isEmpty)
    unknown := words.contains unknownWord }

end SearchTerms

end Logbook
