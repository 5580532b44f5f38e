/-!
# Blanks, pieces and words

Texts are taken apart as lists of characters. They are cut at every character of a class, or at
every place of one character, by `List.splitOnP` and `List.splitOn`, which keep the empty pieces;
`runs` are the non-empty ones, and `words` those between blanks. `strip` takes the characters of a
class away from both ends.

A blank is a character of Unicode's property White_Space (`isBlank`): the space, the controls from
tab to carriage return, and the wider and narrower spaces outside ASCII.
-/

namespace Logbook.Text

/-- Whether a character is a blank. -/
def isBlank (c : Char) : Bool :=
  c = ' ' || (9 ≤ c.toNat && c.toNat ≤ 13) || c.toNat = 0x85 || c.toNat = 0xA0 ||
    c.toNat = 0x1680 || (0x2000 ≤ c.toNat && c.toNat ≤ 0x200A) || c.toNat = 0x2028 ||
    c.toNat = 0x2029 || c.toNat = 0x202F || c.toNat = 0x205F || c.toNat = 0x3000

/-- The text without the characters of the class at its end. -/
def stripEnd (p : Char → Bool) (cs : List Char) : List Char :=
  (cs.reverse.dropWhile p).reverse

/-- The text without the characters of the class at either end. -/
def strip (p : Char → Bool) (cs : List Char) : List Char :=
  stripEnd p (cs.dropWhile p)

/-- The text without the blanks around it. -/
def trim (cs : List Char) : List Char :=
  strip isBlank cs

/-- Whether the text holds nothing but blanks. -/
def isBlankText (cs : List Char) : Bool :=
  cs.all isBlank

/-- The non-empty pieces of a text between the characters of a class. -/
def runs (p : Char → Bool) (cs : List Char) : List (List Char) :=
  (cs.splitOnP p).filter (! ·.isEmpty)

/-- The words of a text: its non-empty pieces between blanks. -/
def words (cs : List Char) : List (List Char) :=
  runs isBlank cs

/-- The text with its ASCII letters made small. -/
def asciiLower (cs : List Char) : List Char :=
  cs.map Char.toLower

/-! ## Finding one text in another -/

/-- Whether `needle` stands somewhere in `hay`. -/
def hasInfix (needle : List Char) : List Char → Bool
  | [] => needle.isEmpty
  | c :: cs => needle.isPrefixOf (c :: cs) || hasInfix needle cs

/-- The parts of a text before and after the first character `c`. -/
def cut? (c : Char) : List Char → Option (List Char × List Char)
  | [] => none
  | d :: ds => if d = c then some ([], ds) else (cut? c ds).map fun (l, r) => (d :: l, r)

/-- The number of bytes that the text takes in UTF-8. -/
def byteLength (cs : List Char) : Nat :=
  cs.foldl (fun n c => n + c.utf8Size) 0

end Logbook.Text
