import Logbook.Json.Basic
import Logbook.Number.Decimal
import Logbook.Text.Quoted

/-!
# Writing JSON

A value is written without spaces. A text is quoted with the fewest escapes: the quote, the
backslash and the controls. A number in double precision keeps a point or an exponent, so that it
is not taken for an integer: its shortest decimal is written positionally from 10^-5 up to below
10^16, and with one digit before the point and an exponent otherwise.
-/

namespace Logbook.Json

/-- The escape of a control, by its code in four digits. -/
def controlCode (c : Char) : List Char :=
  let digits := Nat.toDigits 16 c.toNat
  ['\\', 'u'] ++ List.replicate (4 - digits.length) '0' ++ digits

/-- A character as it stands in a quoted text. -/
def escapeChar (c : Char) : List Char :=
  match c with
  | '"' => ['\\', '"']
  | '\\' => ['\\', '\\']
  | '\x08' => ['\\', 'b']
  | '\x0c' => ['\\', 'f']
  | '\n' => ['\\', 'n']
  | '\r' => ['\\', 'r']
  | '\t' => ['\\', 't']
  | c => if c.toNat < 0x20 then controlCode c else [c]

/-- A quoted text. -/
def quoted (s : String) : List Char :=
  '"' :: s.toList.flatMap escapeChar ++ ['"']

/-- An integer. -/
def integerText (n : Int) : List Char :=
  Double.signText (n < 0) ++ Nat.toDigits 10 n.natAbs

/-- The number of places before the point up to which a number is written positionally. -/
def maxPlaces : Int :=
  16

/-- The number of zeros after the point before which a number is written positionally. -/
def maxZeros : Int :=
  5

/-- A decimal with a point or an exponent. -/
def decimalText (d : Decimal) : List Char :=
  let digits := Nat.toDigits 10 d.digits
  let places : Int := digits.length + d.exponent
  if d.digits = 0 then ['0', '.', '0']
  else if 0 ≤ d.exponent ∧ places ≤ maxPlaces then d.plain ++ ['.', '0']
  else if -maxZeros < places ∧ places ≤ maxPlaces then d.plain
  else
    let power := places - 1
    let point := if digits.length = 1 then [] else ['.']
    digits.take 1 ++ point ++ digits.drop 1 ++ ['e', if power < 0 then '-' else '+'] ++
      Nat.toDigits 10 power.natAbs

mutual

/-- A value. -/
def text : Json → List Char
  | .null => "null".toList
  | .bool b => if b then "true".toList else "false".toList
  | .integer n => integerText n
  | .real negative m => Double.signText negative ++ decimalText (m.shortest .even)
  | .string s => quoted s
  | .array items => '[' :: itemsText items ++ [']']
  | .object fields => '\x7b' :: fieldsText fields ++ ['\x7d']

/-- The items of a list, with commas between them. -/
def itemsText : List Json → List Char
  | [] => []
  | [v] => text v
  | v :: vs => text v ++ ',' :: itemsText vs

/-- The members of an object, with commas between them. -/
def fieldsText : List (String × Json) → List Char
  | [] => []
  | [(k, v)] => quoted k ++ ':' :: text v
  | (k, v) :: rest => quoted k ++ ':' :: text v ++ ',' :: fieldsText rest

end

end Logbook.Json
