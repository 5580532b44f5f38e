import Logbook.Json.Basic
import Logbook.Number.Decimal

/-!
# Numbers in JSON texts

An integer that fits in 64 bits is read exactly. Any other number is read quickly rather than
closely: its digits are collected in a natural number of 64 bits for as long as they fit, the rest
of them are dropped, and that number is then multiplied or divided, in double precision, by the
power of ten that is left. The result may differ from the nearest number in its last bits.

A number whose value is out of the range of double precision is refused.
-/

namespace Logbook.Json

/-- The leading digits of a number, as far as they fit in 64 bits. -/
structure Significand where
  /-- The digits taken, as a number. -/
  value : Nat
  /-- The number of digits before the point that were dropped, less those after it that were
      taken. -/
  shift : Int

/-- The first number that does not fit in 64 bits. -/
def wordBound : Nat :=
  0x10000000000000000

/-- The value of a digit. -/
def digitValue (d : Char) : Nat :=
  d.toNat - '0'.toNat

/-- Takes the digits before the point; from the first that does not fit on they only count. -/
def takeWhole (s : Significand) : List Char → Significand
  | [] => s
  | d :: ds =>
    if s.value * 10 + digitValue d < wordBound then
      takeWhole ⟨s.value * 10 + digitValue d, s.shift⟩ ds
    else ⟨s.value, s.shift + (ds.length + 1)⟩

/-- Takes the digits after the point; from the first that does not fit on they are dropped. -/
def takeFraction (s : Significand) : List Char → Significand
  | [] => s
  | d :: ds =>
    if s.value * 10 + digitValue d < wordBound then
      takeFraction ⟨s.value * 10 + digitValue d, s.shift - 1⟩ ds
    else s

/-- The magnitude next to a natural number. -/
def magnitudeOfNat? (n : Nat) : Option Magnitude :=
  Magnitude.ofRatio? (n * unitsPerOne) 1

/-- The rounded product with a power of ten that is itself rounded. -/
def timesPower? (m : Magnitude) (e : Nat) : Option Magnitude :=
  (magnitudeOfNat? (Nat.pow 10 e)).bind fun p => Magnitude.ofRatio? (m.units * p.units) unitsPerOne

/-- The rounded quotient by a power of ten that is itself rounded. -/
def overPower? (m : Magnitude) (e : Nat) : Option Magnitude :=
  (magnitudeOfNat? (Nat.pow 10 e)).bind fun p => Magnitude.ofRatio? (m.units * unitsPerOne) p.units

/-- The largest power of ten in double precision. -/
def largestPower : Nat :=
  308

/-- The magnitude divided by `10 ^ e`, in steps of the largest power. -/
def scaleDown? (m : Magnitude) (e : Nat) : Option Magnitude :=
  if e ≤ largestPower then overPower? m e
  else if m.units = 0 then some m
  else (overPower? m largestPower).bind fun m => scaleDown? m (e - largestPower)
termination_by e
decreasing_by unfold largestPower at *; omega

/-- The magnitude times `10 ^ e`, unless it is out of range. -/
def scale? (m : Magnitude) (e : Int) : Option Magnitude :=
  if e < 0 then scaleDown? m (-e).toNat
  else if e ≤ largestPower then timesPower? m e.toNat
  else if m.units = 0 then some m
  else none

/-- The parts of a number as it is written. -/
structure Numeral where
  /-- Whether a minus sign stands in front. -/
  negative : Bool
  /-- The digits before the point. -/
  whole : List Char
  /-- The digits after the point, if there is one. -/
  fraction : Option (List Char)
  /-- The sign and the digits of the exponent, if there is one. -/
  exponent : Option (Bool × List Char)

/-- Takes a written number apart. The whole part has no superfluous zero in front, and digits
    follow a point and the mark of the exponent. -/
def Numeral.ofText? (cs : List Char) : Option Numeral :=
  let (negative, cs) := match cs with
    | '-' :: cs => (true, cs)
    | cs => (false, cs)
  let whole := cs.takeWhile Char.isDigit
  let (fraction, rest) := match cs.dropWhile Char.isDigit with
    | '.' :: cs => (some (cs.takeWhile Char.isDigit), cs.dropWhile Char.isDigit)
    | cs => (none, cs)
  let exponent : Option (Option (Bool × List Char)) := match rest with
    | [] => some none
    | c :: cs =>
      if c = 'e' ∨ c = 'E' then
        let (negative, ds) := match cs with
          | '-' :: ds => (true, ds)
          | '+' :: ds => (false, ds)
          | ds => (false, ds)
        if ds.isEmpty || !ds.all Char.isDigit then none else some (some (negative, ds))
      else none
  if whole.isEmpty || (whole.head? = some '0' && 1 < whole.length) || fraction = some [] then none
  else exponent.map fun exponent => ⟨negative, whole, fraction, exponent⟩

/-- Exponents from here on are taken to be out of reach. -/
def exponentBound : Nat :=
  0x80000000

/-- The magnitude that a significand and a written exponent stand for. -/
def realMagnitude? (s : Significand) (exponent : Option (Bool × List Char)) : Option Magnitude :=
  (magnitudeOfNat? s.value).bind fun m =>
    match exponent with
    | none => scale? m s.shift
    | some (negative, ds) =>
      if digitsValue ds < exponentBound then
        scale? m (if negative then s.shift - digitsValue ds else s.shift + digitsValue ds)
      else if negative || m.units = 0 then some .zero
      else none

/-- The number that a numeral stands for, unless it is out of range. -/
def Numeral.value? (n : Numeral) : Option Json :=
  let whole := takeWhole ⟨0, 0⟩ n.whole
  let s := takeFraction whole (n.fraction.getD [])
  if n.fraction.isNone && n.exponent.isNone && whole.shift = 0 &&
      (!n.negative || (0 < whole.value && whole.value ≤ 0x8000000000000000)) then
    some (.integer (if n.negative then -(whole.value : Int) else whole.value))
  else (realMagnitude? s n.exponent).map (.real n.negative)

end Logbook.Json
