import Logbook.Text.Blank
import Logbook.Number.Decimal
import Logbook.Time.Calendar

/-!
# Instants

An instant is a number of milliseconds since the beginning of 1970 in universal time. It is read
from the forms in which log records give their time (`Instant.ofText?`):

* the internet form `2024-05-01T10:00:00.25+02:00`, with all digits and an offset;
* the same without an offset, with a `T` or blanks between the day and the time, where a number may
  have fewer digits or blanks in front, and a year may have a sign and any number of digits;
* a day alone, which stands for its beginning.

The 61st second of a minute is taken for a leap second. An instant is written in the internet form,
to the millisecond (`Instant.text?`).
-/

namespace Logbook.Instant

open Text

/-- A day and a time of the day, as they are written. -/
structure Reading where
  /-- The day. -/
  date : Date
  /-- The hour, from 0. -/
  hour : Nat
  /-- The minute, from 0. -/
  minute : Nat
  /-- The second, from 0. -/
  second : Nat
  /-- The milliseconds. -/
  milli : Nat
  deriving DecidableEq

/-- Whether there is such a day and such a time. -/
def Reading.isValid (r : Reading) : Bool :=
  r.date.isValid && r.hour < 24 && r.minute < 60 && r.second ≤ 60

/-- The milliseconds from the beginning of 1970 to a reading in universal time. -/
def Reading.toMillis (r : Reading) : Int :=
  ((r.date.toDays * 24 + r.hour) * 60 + r.minute) * 60000 + r.second * 1000 + r.milli

/-! ## Parts of a written instant -/

/-- A number of exactly so many digits. -/
def exactly? (count : Nat) (cs : List Char) : Option (Nat × List Char) :=
  let digits := cs.take count
  if digits.length = count ∧ digits.all Char.isDigit then some (digitsValue digits, cs.drop count)
  else none

/-- The digits in front, at most so many. -/
def leading (limit : Nat) (cs : List Char) : List Char :=
  (cs.take limit).takeWhile Char.isDigit

/-- A number of at most so many digits, after blanks. -/
def upTo? (limit : Nat) (cs : List Char) : Option (Nat × List Char) :=
  let cs := cs.dropWhile isBlank
  let digits := leading limit cs
  if digits.isEmpty then none else some (digitsValue digits, cs.drop digits.length)

/-- A given character. -/
def char? (c : Char) : List Char → Option (List Char)
  | d :: ds => if d = c then some ds else none
  | [] => none

/-- The milliseconds after a point, if there is one; digits past the ninth are passed over. -/
def fraction? : List Char → Option (Nat × List Char)
  | '.' :: cs =>
    let digits := leading 9 cs
    if digits.isEmpty then none
    else some (digitsValue digits * Nat.pow 10 (9 - digits.length) / 1000000, cs.dropWhile Char.isDigit)
  | cs => some (0, cs)

/-- The digits of a year, which may be more than four after a sign. -/
def year? (cs : List Char) : Option (Int × List Char) :=
  match cs.dropWhile isBlank with
  | '-' :: cs =>
    let digits := cs.takeWhile Char.isDigit
    if digits.isEmpty then none else some (-(digitsValue digits : Int), cs.drop digits.length)
  | '+' :: cs =>
    let digits := cs.takeWhile Char.isDigit
    if digits.isEmpty then none else some ((digitsValue digits : Int), cs.drop digits.length)
  | cs => (upTo? 4 cs).map fun (n, cs) => ((n : Int), cs)

/-- An offset from universal time in minutes: a `Z`, or a sign, hours and minutes. -/
def offset? : List Char → Option (Int × List Char)
  | [] => none
  | c :: cs =>
    if c = 'Z' ∨ c = 'z' then some (0, cs)
    else if c = '+' ∨ c = '-' ∨ c.toNat = 0x2212 then do
      let (hours, cs) ← exactly? 2 cs
      let cs ← char? ':' cs
      let (minutes, cs) ← exactly? 2 cs
      if hours < 24 ∧ minutes < 60 then
        let total : Int := hours * 60 + minutes
        some (if c = '+' then total else -total, cs)
      else none
    else none

/-! ## Forms -/

/-- The internet form. -/
def internet? (cs : List Char) : Option Int := do
  let (year, cs) ← exactly? 4 cs
  let cs ← char? '-' cs
  let (month, cs) ← exactly? 2 cs
  let cs ← char? '-' cs
  let (day, cs) ← exactly? 2 cs
  let cs ← (char? 'T' cs <|> char? 't' cs <|> char? ' ' cs)
  let (hour, cs) ← exactly? 2 cs
  let cs ← char? ':' cs
  let (minute, cs) ← exactly? 2 cs
  let cs ← char? ':' cs
  let (second, cs) ← exactly? 2 cs
  let (milli, cs) ← fraction? cs
  let (offset, cs) ← offset? cs
  let r : Reading := ⟨⟨year, month, day⟩, hour, minute, second, milli⟩
  if cs.isEmpty ∧ r.isValid then some (r.toMillis - offset * 60000) else none

/-- A day, and what follows it. -/
def date? (cs : List Char) : Option (Date × List Char) := do
  let (year, cs) ← year? cs
  let cs ← char? '-' cs
  let (month, cs) ← upTo? 2 cs
  let cs ← char? '-' cs
  let (day, cs) ← upTo? 2 cs
  return (⟨year, month, day⟩, cs)

/-- A time of the given day, and nothing after it. -/
def clock? (date : Date) (cs : List Char) : Option Int := do
  let (hour, cs) ← upTo? 2 cs
  let cs ← char? ':' cs
  let (minute, cs) ← upTo? 2 cs
  let cs ← char? ':' cs
  let (second, cs) ← upTo? 2 cs
  let (milli, cs) ← fraction? cs
  let r : Reading := ⟨date, hour, minute, second, milli⟩
  if cs.isEmpty ∧ r.isValid then some r.toMillis else none

/-- A day, a `T` and a time. -/
def joined? (cs : List Char) : Option Int := do
  let (date, cs) ← date? cs
  clock? date (← char? 'T' cs)

/-- A day, blanks and a time. -/
def spaced? (cs : List Char) : Option Int := do
  let (date, cs) ← date? cs
  clock? date (cs.dropWhile isBlank)

/-- A day alone. -/
def day? (cs : List Char) : Option Int := do
  let (date, cs) ← date? cs
  let r : Reading := ⟨date, 0, 0, 0, 0⟩
  if cs.isEmpty ∧ r.isValid then some r.toMillis else none

/-- The instant that a text gives, with blanks around it. -/
def ofText? (s : String) : Option Int :=
  let cs := trim s.toList
  internet? cs <|> joined? cs <|> spaced? cs <|> day? cs

/-! ## Writing -/

/-- A number with zeros in front, so that it has at least so many digits. -/
def padded (width n : Nat) : List Char :=
  let digits := Nat.toDigits 10 n
  List.replicate (width - digits.length) '0' ++ digits

/-- A year in at least four digits, with a sign if it is not one of 0 to 9999. -/
def yearText (year : Int) : List Char :=
  if 0 ≤ year ∧ year ≤ 9999 then padded 4 year.toNat
  else (if year < 0 then '-' else '+') :: padded 4 year.natAbs

/-- The milliseconds of a day. -/
def dayMillis : Int :=
  86400000

/-- An instant in the internet form, if its day is one of those that are reckoned in. -/
def text? (ms : Int) : Option (List Char) :=
  let date := Date.ofDays (ms / dayMillis)
  let inDay := (ms % dayMillis).toNat
  if date.isValid then
    some (yearText date.year ++ '-' :: padded 2 date.month ++ '-' :: padded 2 date.day ++
      'T' :: padded 2 (inDay / 3600000) ++ ':' :: padded 2 (inDay / 60000 % 60) ++
      ':' :: padded 2 (inDay / 1000 % 60) ++ '.' :: padded 3 (inDay % 1000) ++ ['Z'])
  else none

end Logbook.Instant
