/-!
# Numbers in double precision

A finite number in double precision is a whole number of *units* of 2^-1074, the smallest positive
one, with a sign. Its significant bits number at most 53, so that near a magnitude of `u` units the
numbers stand `spacing u` units apart, and it stays below 2^1024 (`Magnitude`). Next to the finite
numbers there are two infinities and a value that is no number.

Counting in units keeps everything in the natural numbers: two numbers are compared by comparing
counts (`Double.rank?`), and a quotient is rounded by dividing with remainder (`roundUnits`), a half
going to the even neighbour.
-/

namespace Logbook

/-- The distance, in units, between neighbouring numbers at a magnitude of `u` units. -/
def spacing (u : Nat) : Nat :=
  Nat.pow 2 (u.log2 - 52)

/-- A unit is two to the minus this. -/
def unitExponent : Nat :=
  1074

/-- The number of units in one. -/
def unitsPerOne : Nat :=
  Nat.pow 2 unitExponent

/-- The first number of units past the finite numbers, which stay below 2^1024. -/
def unitsBound : Nat :=
  Nat.pow 2 (unitExponent + 1024)

theorem pow_two_pos (k : Nat) : 0 < Nat.pow 2 k :=
  Nat.two_pow_pos k

theorem unitsPerOne_pos : 0 < unitsPerOne := by
  unfold unitsPerOne
  exact pow_two_pos _

theorem unitsBound_pos : 0 < unitsBound := by
  unfold unitsBound
  exact pow_two_pos _

/-- The quotient `p / q` rounded to a whole number, a half going to the even neighbour. -/
def roundHalfEven (p q : Nat) : Nat :=
  if 2 * (p % q) < q then p / q
  else if q < 2 * (p % q) then p / q + 1
  else p / q + p / q % 2

/-- The quotient `p / q`, a magnitude in units, rounded to the number of units of a neighbouring
    number, if there were no bound on them. -/
def roundUnits (p q : Nat) : Nat :=
  roundHalfEven p (q * spacing (p / q)) * spacing (p / q)

theorem roundHalfEven_le (p q : Nat) : roundHalfEven p q ≤ p / q + 1 := by
  unfold roundHalfEven
  split
  · omega
  · split <;> omega

/-- A multiple of a power of two by a count of at most 53 bits lies on the grid. -/
theorem spacing_dvd_mul {m k : Nat} (h : m ≤ Nat.pow 2 53) :
    spacing (m * Nat.pow 2 k) ∣ m * Nat.pow 2 k := by
  simp only [spacing, Nat.pow_eq] at h ⊢
  rcases Nat.eq_zero_or_pos m with rfl | hm
  · simp
  rcases Nat.lt_or_eq_of_le h with h | rfl
  · refine Nat.dvd_trans (Nat.pow_dvd_pow 2 ?_) (Nat.dvd_mul_left _ _)
    have hpos : m * 2 ^ k ≠ 0 := Nat.mul_ne_zero (Nat.ne_of_gt hm) (Nat.ne_of_gt (Nat.two_pow_pos k))
    have : (m * 2 ^ k).log2 < 53 + k := by
      rw [Nat.log2_lt hpos, Nat.pow_add]
      exact Nat.mul_lt_mul_of_pos_right h (Nat.two_pow_pos k)
    omega
  · rw [← Nat.pow_add]
    refine Nat.pow_dvd_pow 2 ?_
    rw [Nat.log2_two_pow]
    omega

/-- A rounded quotient lies on the grid. -/
theorem spacing_dvd_roundUnits (p q : Nat) : spacing (roundUnits p q) ∣ roundUnits p q := by
  refine spacing_dvd_mul (Nat.le_trans (roundHalfEven_le _ _) ?_)
  rw [← Nat.div_div_eq_div_mul]
  generalize p / q = u
  show u / 2 ^ (u.log2 - 52) < 2 ^ 53
  rw [Nat.div_lt_iff_lt_mul (Nat.two_pow_pos _), ← Nat.pow_add]
  rcases Nat.eq_zero_or_pos u with rfl | hu
  · exact Nat.two_pow_pos _
  · exact Nat.lt_of_lt_of_le Nat.lt_log2_self (Nat.pow_le_pow_right (by decide) (by omega))

/-- The absolute value of a finite number. -/
structure Magnitude where
  /-- The number of units. -/
  units : Nat
  /-- The magnitude lies on the grid. -/
  spacing_dvd : spacing units ∣ units
  /-- The magnitude is finite. -/
  units_lt : units < unitsBound
  deriving DecidableEq

/-- A number in double precision. -/
inductive Double where
  /-- No number. -/
  | nan
  /-- An infinity. -/
  | infinite (negative : Bool)
  /-- A finite number. -/
  | finite (negative : Bool) (magnitude : Magnitude)
  deriving DecidableEq

/-- The integer as a signed integer of 64 bits; what lies outside their range goes to its nearer
    end. -/
def clamp64 (n : Int) : Int :=
  max (-0x8000000000000000) (min 0x7FFFFFFFFFFFFFFF n)

namespace Magnitude

/-- The magnitude 0. -/
def zero : Magnitude :=
  ⟨0, Nat.dvd_zero _, unitsBound_pos⟩

instance : Inhabited Magnitude := ⟨zero⟩

/-- The magnitude next to `p / q` units, unless it is too large. -/
def ofRatio? (p q : Nat) : Option Magnitude :=
  if h : roundUnits p q < unitsBound then some ⟨roundUnits p q, spacing_dvd_roundUnits p q, h⟩
  else none

/-- Whether the magnitude is a whole number. -/
def isWhole (m : Magnitude) : Bool :=
  m.units % unitsPerOne = 0

/-- The whole part of the magnitude. -/
def whole (m : Magnitude) : Nat :=
  m.units / unitsPerOne

end Magnitude

namespace Double

instance : Inhabited Double := ⟨.nan⟩

/-- The number next to `p / q` units. -/
def ofRatio (negative : Bool) (p q : Nat) : Double :=
  match Magnitude.ofRatio? p q with
  | some m => .finite negative m
  | none => .infinite negative

/-- The number next to an integer. -/
def ofInt (n : Int) : Double :=
  ofRatio (n < 0) (n.natAbs * unitsPerOne) 1

/-- The number next to `m * 10 ^ e`. -/
def ofDecimal (negative : Bool) (m : Nat) (e : Int) : Double :=
  if 0 ≤ e then ofRatio negative (m * Nat.pow 10 e.toNat * unitsPerOne) 1
  else ofRatio negative (m * unitsPerOne) (Nat.pow 10 (-e).toNat)

/-- The place of a number in their order, counted in units; infinity stands at the bound. -/
def rank? : Double → Option Int
  | .nan => none
  | .infinite negative => some (if negative then -(unitsBound : Int) else unitsBound)
  | .finite negative m => some (if negative then -(m.units : Int) else m.units)

/-- How two numbers compare, if both are numbers. The two zeros are equal. -/
def compare? (a b : Double) : Option Ordering :=
  match a.rank?, b.rank? with
  | some x, some y => some (compare x y)
  | _, _ => none

/-- Whether two numbers have the same value. No value equals the one that is no number. -/
def sameValue (a b : Double) : Bool :=
  a.compare? b = some .eq

/-- Whether the number is neither infinite nor missing. -/
def isFinite : Double → Bool
  | .finite .. => true
  | _ => false

/-- The number without its fraction, as a signed integer of 64 bits. -/
def toInt64 (d : Double) : Int :=
  match d.rank? with
  | none => 0
  | some r => clamp64 (r.tdiv unitsPerOne)

end Double

end Logbook
