import Logbook.Number.Double

/-!
# Numbers as decimal texts

Reading takes the exact value of a decimal text to the nearest number in double precision
(`Double.ofText?`). Writing goes the other way by the *shortest* text that is read back as the same
number: of the decimals that round to it, one on the coarsest grid 10^k, and of those the nearest
(`Magnitude.shortest`).

The values that round to a magnitude form an interval around it, half way to its neighbours on
either side; the ends belong to it if the magnitude is even on its own grid. A grid has a point in
the interval only if one of the two grid points around the magnitude is there, so these two are all
that is tried.
-/

namespace Logbook

/-- The decimal `digits * 10 ^ exponent`. -/
structure Decimal where
  /-- The digits, as a number. -/
  digits : Nat
  /-- The power of ten that they count. -/
  exponent : Int
  deriving DecidableEq, Inhabited

/-- Which of two equally near decimals is taken. -/
inductive Tie where
  /-- The larger one. -/
  | up
  /-- The one with an even last digit. -/
  | even
  deriving DecidableEq

namespace Decimal

/-- The decimal in positional notation, with a point only if it has a fraction. -/
def plain (d : Decimal) : List Char :=
  let digits := Nat.toDigits 10 d.digits
  if 0 ≤ d.exponent then digits ++ List.replicate d.exponent.toNat '0'
  else
    let places := (-d.exponent).toNat
    if places < digits.length then
      digits.take (digits.length - places) ++ '.' :: digits.drop (digits.length - places)
    else '0' :: '.' :: List.replicate (places - digits.length) '0' ++ digits

end Decimal

namespace Magnitude

/-- Four times the number of units from the magnitude down to the end of its interval. Below a
    power of two the numbers stand closer together. -/
def below (m : Magnitude) : Nat :=
  if m.units / spacing m.units = 0x10000000000000 ∧ 1 < spacing m.units then spacing m.units
  else 2 * spacing m.units

/-- Four times the number of units from the magnitude up to the end of its interval. -/
def above (m : Magnitude) : Nat :=
  2 * spacing m.units

/-- Whether the ends of the interval round to the magnitude. -/
def isClosed (m : Magnitude) : Bool :=
  m.units / spacing m.units % 2 = 0

/-- Whether the multiple `c` of `10 ^ k` is not below the interval of the magnitude. -/
def reaches (m : Magnitude) (k : Int) (c : Nat) : Bool :=
  let low := (4 * m.units - m.below) * Nat.pow 10 (-k).toNat
  let point := 4 * (c * Nat.pow 10 k.toNat * unitsPerOne)
  if m.isClosed then low ≤ point else low < point

/-- Whether the multiple `c` of `10 ^ k` is not above the interval of the magnitude. -/
def isReached (m : Magnitude) (k : Int) (c : Nat) : Bool :=
  let high := (4 * m.units + m.above) * Nat.pow 10 (-k).toNat
  let point := 4 * (c * Nat.pow 10 k.toNat * unitsPerOne)
  if m.isClosed then point ≤ high else point < high

/-- The multiple of `10 ^ k` nearest to the magnitude of those that round to it, if one does. -/
def onGrid? (tie : Tie) (m : Magnitude) (k : Int) : Option Decimal :=
  let p := m.units * Nat.pow 10 (-k).toNat
  let q := unitsPerOne * Nat.pow 10 k.toNat
  let c := p / q
  match m.reaches k c, m.isReached k (c + 1) with
  | true, false => some ⟨c, k⟩
  | false, true => some ⟨c + 1, k⟩
  | false, false => none
  | true, true =>
    if 2 * (p % q) < q then some ⟨c, k⟩
    else if q < 2 * (p % q) then some ⟨c + 1, k⟩
    else match tie with
      | .up => some ⟨c + 1, k⟩
      | .even => some ⟨c + c % 2, k⟩

/-- The exponent of a power of ten that is larger than every decimal that rounds to the magnitude,
    but not by more than two places. -/
def topExponent (m : Magnitude) : Int :=
  ((m.units.log2 : Int) + 2 - unitExponent) * 30103 / 100000 + 1

/-- The exact value of the magnitude. -/
def exact (m : Magnitude) : Decimal :=
  ⟨m.units * Nat.pow 5 unitExponent, -(unitExponent : Int)⟩

/-- The shortest decimal that rounds to the magnitude. Twenty grids are tried, for seventeen digits
    always do. -/
def shortest (tie : Tie) (m : Magnitude) : Decimal :=
  if m.units = 0 then ⟨0, 0⟩
  else ((List.range 20).findSome? fun (i : Nat) => m.onGrid? tie (m.topExponent - i)).getD m.exact

end Magnitude

/-! ## Reading -/

/-- The number that a list of digits stands for. -/
def digitsValue (ds : List Char) : Nat :=
  ds.foldl (fun n d => n * 10 + (d.toNat - '0'.toNat)) 0

/-- The natural number that a text of digits stands for, perhaps after a plus sign, if it fits in
    64 bits. -/
def natural64? (cs : List Char) : Option Nat :=
  let digits := match cs with
    | '+' :: ds => ds
    | ds => ds
  if digits.isEmpty || !digits.all Char.isDigit then none
  else if digitsValue digits < 0x10000000000000000 then some (digitsValue digits)
  else none

namespace Double

/-- The number next to `m * 10 ^ e`, where a power of ten that takes every `m` out of the range
    is not worked out. -/
def ofScaled (negative : Bool) (m : Nat) (e : Int) : Double :=
  if m = 0 then .finite negative .zero
  else if 400 < e then .infinite negative
  else if 3 * e + m.log2 + 1 < -(unitExponent + 1 : Int) then .finite negative .zero
  else ofDecimal negative m e

/-- The exponent after the digits of a number: absent, or an `e` and an integer. -/
def exponent? : List Char → Option Int
  | [] => some 0
  | c :: cs =>
    if c = 'e' ∨ c = 'E' then
      let (negative, ds) := match cs with
        | '-' :: ds => (true, ds)
        | '+' :: ds => (false, ds)
        | ds => (false, ds)
      if ds.isEmpty || !ds.all Char.isDigit then none
      else some (if negative then -(digitsValue ds : Int) else digitsValue ds)
    else none

/-- The number that an unsigned text stands for: digits with an optional point among them or at
    either end, and an optional exponent. -/
def ofUnsigned? (negative : Bool) (cs : List Char) : Option Double :=
  let whole := cs.takeWhile Char.isDigit
  let rest := cs.dropWhile Char.isDigit
  let (fraction, rest) := match rest with
    | '.' :: rest => (rest.takeWhile Char.isDigit, rest.dropWhile Char.isDigit)
    | rest => ([], rest)
  if whole.isEmpty && fraction.isEmpty then none
  else (exponent? rest).map fun e =>
    ofScaled negative (digitsValue (whole ++ fraction)) (e - fraction.length)

/-- The number that a text stands for: a decimal, or a name of infinity or of no number, with an
    optional sign. -/
def ofText? (cs : List Char) : Option Double :=
  let (negative, rest) := match cs with
    | '-' :: rest => (true, rest)
    | '+' :: rest => (false, rest)
    | rest => (false, rest)
  match String.ofList (rest.map Char.toLower) with
  | "inf" | "infinity" => some (.infinite negative)
  | "nan" => some .nan
  | _ => ofUnsigned? negative rest

/-! ## Writing -/

/-- The sign of a negative number. -/
def signText (negative : Bool) : List Char :=
  if negative then ['-'] else []

/-- Magnitudes below this are written out to the last digit if they are whole. -/
def plainBound : Nat :=
  1000000000000000

/-- A number as the value of a field is shown: a whole number below `plainBound` as an integer,
    and any other number by its shortest decimal in positional notation. -/
def text : Double → List Char
  | .nan => "NaN".toList
  | .infinite negative => signText negative ++ "inf".toList
  | .finite negative m =>
    if m.isWhole ∧ m.whole < plainBound then
      signText (negative && m.whole ≠ 0) ++ Nat.toDigits 10 m.whole
    else signText negative ++ (m.shortest .up).plain

end Double

end Logbook
