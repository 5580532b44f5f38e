import Logbook.Pattern.CharSet

/-!
# Patterns

A pattern describes texts: a given one, those of one character of a set, one after another, one or
another, or repeated. It may also look at the place where it stands (`Look`), which is given by the
characters before and after it.
-/

namespace Logbook

namespace Pattern

/-- What is asked about words at a place. -/
inductive WordTest where
  /-- A word starts or ends. -/
  | boundary
  /-- No word starts or ends. -/
  | noBoundary
  /-- A word starts. -/
  | start
  /-- A word ends. -/
  | stop
  /-- The character before is not part of a word. -/
  | startHalf
  /-- The character after is not part of a word. -/
  | stopHalf
  deriving DecidableEq

/-- A condition on a place in a text. -/
inductive Look where
  /-- The place is the start of the text. -/
  | textStart
  /-- The place is the end of the text. -/
  | textEnd
  /-- A line starts; with `crlf`, lines also end at a carriage return, alone or before a newline. -/
  | lineStart (crlf : Bool)
  /-- A line ends. -/
  | lineEnd (crlf : Bool)
  /-- A test of words, which may be made of ASCII characters alone. -/
  | word (ascii : Bool) (test : WordTest)
  deriving DecidableEq

/-- Whether there is a character, and it is part of a word. -/
def isWord (ascii : Bool) : Option Char → Bool
  | none => false
  | some c =>
    if c.toNat < 0x80 then CharSet.asciiWordChars.contains c.toNat
    else !ascii && CharSet.wordChars.contains c.toNat

/-- Whether the condition holds between two characters, where `none` is an end of the text. -/
def Look.holds (before after : Option Char) : Look → Bool
  | .textStart => before.isNone
  | .textEnd => after.isNone
  | .lineStart false => before.isNone || before = some '\n'
  | .lineStart true =>
    before.isNone || before = some '\n' || (before = some '\r' && after ≠ some '\n')
  | .lineEnd false => after.isNone || after = some '\n'
  | .lineEnd true =>
    after.isNone || after = some '\r' || (after = some '\n' && before ≠ some '\r')
  | .word ascii test =>
    let l := isWord ascii before
    let r := isWord ascii after
    match test with
    | .boundary => l != r
    | .noBoundary => l = r
    | .start => !l && r
    | .stop => l && !r
    | .startHalf => !l
    | .stopHalf => !r

end Pattern

/-- A pattern. -/
inductive Pattern where
  /-- The empty text. -/
  | empty
  /-- A text. -/
  | text (cs : List Char)
  /-- A character of a set. -/
  | char (s : Pattern.CharSet)
  /-- The empty text, where a condition holds. -/
  | look (l : Pattern.Look)
  /-- A pattern whose match is told apart by a number. -/
  | group (number : Nat) (p : Pattern)
  /-- One pattern after the other. -/
  | seq (p q : Pattern)
  /-- One pattern or the other. -/
  | alt (p q : Pattern)
  /-- A pattern over and over, so many times at least and at most; `lazy` if fewer times are
      preferred. -/
  | repeat (min : Nat) (max : Option Nat) (lazy : Bool) (p : Pattern)
  deriving DecidableEq

instance : Inhabited Pattern := ⟨.empty⟩

end Logbook
