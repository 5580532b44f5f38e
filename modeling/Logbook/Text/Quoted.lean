import Logbook.Text.Property

/-!
# Quoted texts

A text in double quotes, as a query is shown. A quote and a backslash inside it follow a
backslash, the common controls are written by a letter, and a character that has no shape of its
own, or that would be drawn on its neighbour, by its code point in base 16. All other characters
stand for themselves.
-/

namespace Logbook.Text

/-- The digits of a number in base 16. -/
def hexDigits (n : Nat) : List Char :=
  Nat.toDigits 16 n

/-- The letters of Hangul and of its halfwidth form that stand for a missing one and are drawn as
    nothing. -/
def fillers : List Nat :=
  [0x115F, 0x1160, 0x3164, 0xFFA0]

/-- The halfwidth sound marks: they belong to the letter before them but are drawn beside it. -/
def soundMarks : List Nat :=
  [0xFF9E, 0xFF9F]

/-- Whether a character outside ASCII cannot be shown as it is. -/
def isHidden (c : Char) : Bool :=
  Property.unprintable.contains c.toNat || fillers.contains c.toNat ||
    (Property.graphemeExtend.contains c.toNat && !soundMarks.contains c.toNat)

/-- A character by its code point. -/
def escapeCode (c : Char) : List Char :=
  ['\\', 'u', '\x7b'] ++ hexDigits c.toNat ++ ['\x7d']

/-- A character as it is written inside a quoted text. -/
def escape (c : Char) : List Char :=
  if c = '"' then ['\\', '"']
  else if c = '\\' then ['\\', '\\']
  else if c = '\n' then ['\\', 'n']
  else if c = '\r' then ['\\', 'r']
  else if c = '\t' then ['\\', 't']
  else if c.toNat = 0 then ['\\', '0']
  else if isHidden c then escapeCode c
  else [c]

/-- A text in double quotes. -/
def quote (cs : List Char) : List Char :=
  '"' :: cs.flatMap escape ++ ['"']

end Logbook.Text
