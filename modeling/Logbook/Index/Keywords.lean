import Logbook.Text.Blank
import Logbook.Text.Case

/-!
# Keywords

The keywords of a message are its words in small letters, except for short ones and for words so
common that they say nothing. Of a long message only the first few are kept, and it is remembered
that there were more (`Keywords.overflows`).
-/

namespace Logbook

/-- Words that are no keywords. -/
def stopwords : List String :=
  ["the", "and", "or", "but", "a", "an", "is", "are", "was", "to", "of", "in", "on", "at", "by",
    "for", "with", "as", "be", "it", "from"]

/-- Whether a word in small letters is a keyword. -/
def isKeyword (minLength : Nat) (word : List Char) : Bool :=
  minLength ≤ word.length && !stopwords.contains (String.ofList word)

/-- All keywords of a message, in order. -/
def eligibleWords (minLength : Nat) (message : String) : List (List Char) :=
  (Text.words (Text.lower message.toList)).filter (isKeyword minLength)

/-- The keywords of a message that are kept. -/
structure Keywords where
  /-- The first few, in order. -/
  kept : List String
  /-- Whether there were more. -/
  overflows : Bool

/-- The keywords of a message, at most so many. -/
def Keywords.ofMessage (limit minLength : Nat) (message : String) : Keywords :=
  let words := eligibleWords minLength message
  ⟨(words.take limit).map String.ofList, limit < words.length⟩

end Logbook
