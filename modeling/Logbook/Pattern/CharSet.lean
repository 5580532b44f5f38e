import Logbook.Pattern.Ages
import Logbook.Pattern.Breaks
import Logbook.Pattern.CaseFold
import Logbook.Pattern.Properties
import Logbook.Pattern.Scripts
import Logbook.Text.Blank

/-!
# Sets of characters in patterns

The sets that a pattern can name: the classes of letters, digits, blanks and parts of words, and the
properties of characters that Unicode knows, in its version 16.
-/

namespace Logbook.Pattern

/-- A set of characters. -/
abbrev CharSet := CodeRanges

namespace CharSet

/-! ## Letter case in ASCII -/

/-- The runs moved by a distance, upwards or downwards. -/
def moved (up : Bool) (distance : Nat) (s : CharSet) : CharSet :=
  ⟨s.runs.map fun (first, last) =>
    if up then (first + distance, last + distance) else (first - distance, last - distance)⟩

/-- The set with the other cases of its ASCII letters. -/
def withAsciiCases (s : CharSet) : CharSet :=
  .unions [s, moved true 0x20 (s.inter (.range 0x41 0x5A)),
    moved false 0x20 (s.inter (.range 0x61 0x7A))]

/-! ## Classes -/

/-- The ASCII characters. -/
def ascii : CharSet :=
  .range 0 0x7F

/-- The blanks. -/
def blanks : CharSet :=
  (setOf? properties "whitespace").getD .empty

/-- The decimal digits of all scripts. -/
def digits : CharSet :=
  (setOf? categories "nd").getD .empty

/-- The characters of which words are made: letters, marks, decimal digits, connectors and
    joiners. -/
def wordChars : CharSet :=
  .unions (((setOf? properties "alphabetic").toList ++ ["m", "nd", "pc"].filterMap (setOf? categories))
    ++ [.range 0x200C 0x200D])

/-- The ASCII characters of which words are made. -/
def asciiWordChars : CharSet :=
  .ofRuns [(0x30, 0x39), (0x41, 0x5A), (0x5F, 0x5F), (0x61, 0x7A)]

/-- The ASCII blanks. -/
def asciiBlanks : CharSet :=
  .ofRuns [(0x09, 0x0D), (0x20, 0x20)]

/-- The sets that may be named between colons in a bracketed set. -/
def asciiClass? (name : String) : Option CharSet :=
  let runs : Option (List (Nat × Nat)) := match name with
    | "alnum" => some [(0x30, 0x39), (0x41, 0x5A), (0x61, 0x7A)]
    | "alpha" => some [(0x41, 0x5A), (0x61, 0x7A)]
    | "ascii" => some [(0x00, 0x7F)]
    | "blank" => some [(0x09, 0x09), (0x20, 0x20)]
    | "cntrl" => some [(0x00, 0x1F), (0x7F, 0x7F)]
    | "digit" => some [(0x30, 0x39)]
    | "graph" => some [(0x21, 0x7E)]
    | "lower" => some [(0x61, 0x7A)]
    | "print" => some [(0x20, 0x7E)]
    | "punct" => some [(0x21, 0x2F), (0x3A, 0x40), (0x5B, 0x60), (0x7B, 0x7E)]
    | "space" => some [(0x09, 0x0D), (0x20, 0x20)]
    | "upper" => some [(0x41, 0x5A)]
    | "word" => some [(0x30, 0x39), (0x41, 0x5A), (0x5F, 0x5F), (0x61, 0x7A)]
    | "xdigit" => some [(0x30, 0x39), (0x41, 0x46), (0x61, 0x66)]
    | _ => none
  runs.map .ofRuns

/-! ## Named sets -/

/-- The general category of a plain name. -/
def category? (name : String) : Option CharSet :=
  match name with
  | "any" => some .all
  | "ascii" => some ascii
  | "assigned" => some (.compl unassigned)
  | _ => setOf? categories name

/-- The characters that a version of Unicode has, by its plain name. -/
def age? (name : String) : Option CharSet :=
  (ages.findIdx? fun s => s.names.contains name).map fun i =>
    .unions ((ages.take (i + 1)).map (·.set))

/-- The set of a name that stands alone: a property, a category or a script. -/
def named? (name : List Char) : Option CharSet :=
  let name := plainName name
  setOf? properties name <|> category? name <|> setOf? scripts name

/-- The set of the characters that have a value for a property. -/
def valued? (property value : List Char) : Option CharSet :=
  let value := plainName value
  match plainName property with
  | "gc" | "generalcategory" => category? value
  | "sc" | "script" => setOf? scripts value
  | "scx" | "scriptextensions" => setOf? scriptExtensions value
  | "age" => age? value
  | "gcb" | "graphemeclusterbreak" => setOf? graphemeBreaks value
  | "wb" | "wordbreak" => setOf? wordBreaks value
  | "sb" | "sentencebreak" => setOf? sentenceBreaks value
  | _ => none

end CharSet

end Logbook.Pattern
