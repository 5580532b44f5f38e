import Logbook.Number.Double
import Mathlib

/-!
# Whole numbers in double precision

The numbers in double precision hold every integer up to 2^53 in absolute value (`exactBound`), and
beyond it they keep to the same side: an integer past the bound is rounded to a number that is not
within it. An integer may therefore be compared with one inside of the bound as if neither of them
had been rounded (`Double.compare?_ofInt`), and comes back as it was (`Double.toInt64_ofInt`).
-/

namespace Logbook

/-- Integers up to this absolute value are numbers in double precision. -/
def exactBound : Nat :=
  9007199254740992

theorem exactBound_eq : exactBound = 2 ^ 53 := rfl

/-- Integers up to the bound are within 64 bits. -/
theorem clamp64_of_natAbs_le {n : Int} (h : n.natAbs ≤ exactBound) : clamp64 n = n := by
  unfold clamp64
  unfold exactBound at h
  omega

-- A unit may be any power of two here; nothing is gained from writing it out.
theorem exists_units_eq_two_pow :
    ∃ k, unitsPerOne = 2 ^ k ∧ unitsBound = 2 ^ (k + 1024) := by
  unfold unitsPerOne unitsBound
  generalize unitExponent = k
  exact ⟨k, Nat.pow_eq, Nat.pow_eq⟩

attribute [local irreducible] unitsPerOne unitsBound

theorem spacing_pos (u : Nat) : 0 < spacing u :=
  pow_two_pos _

/-! ## Rounding -/

theorem div_le_roundHalfEven (p q : Nat) : p / q ≤ roundHalfEven p q := by
  unfold roundHalfEven
  split
  · exact Nat.le_refl _
  · split <;> omega

theorem roundHalfEven_of_dvd {p q : Nat} (hq : 0 < q) (h : q ∣ p) : roundHalfEven p q = p / q := by
  rw [roundHalfEven, Nat.mod_eq_zero_of_dvd h, if_pos (by omega)]

/-- A magnitude on the grid is not rounded. -/
theorem roundUnits_of_dvd {p : Nat} (h : spacing p ∣ p) : roundUnits p 1 = p := by
  rw [roundUnits, Nat.div_one, Nat.one_mul, roundHalfEven_of_dvd (spacing_pos p) h,
    Nat.div_mul_cancel h]

theorem two_pow_log2_eq {u : Nat} (h : 52 ≤ u.log2) : 2 ^ u.log2 = 2 ^ 52 * spacing u := by
  rw [spacing, Nat.pow_eq, ← Nat.pow_add, Nat.add_sub_cancel' h]

/-- A magnitude is not rounded to below a power of two that it reaches. -/
theorem two_pow_le_roundUnits {k p : Nat} (hk : 52 ≤ k) (h : 2 ^ k ≤ p) :
    2 ^ k ≤ roundUnits p 1 := by
  have hp : p ≠ 0 := Nat.ne_of_gt (Nat.lt_of_lt_of_le (Nat.two_pow_pos k) h)
  have hlog : k ≤ p.log2 := (Nat.le_log2 hp).2 h
  have hsplit := two_pow_log2_eq (Nat.le_trans hk hlog)
  have hdiv : 2 ^ 52 ≤ p / spacing p := by
    rw [Nat.le_div_iff_mul_le (spacing_pos p), ← hsplit]
    exact Nat.log2_self_le hp
  calc 2 ^ k ≤ 2 ^ p.log2 := Nat.pow_le_pow_right (by omega) hlog
    _ = 2 ^ 52 * spacing p := hsplit
    _ ≤ p / spacing p * spacing p := Nat.mul_le_mul_right _ hdiv
    _ ≤ roundUnits p 1 := by
      rw [roundUnits, Nat.div_one, Nat.one_mul]
      exact Nat.mul_le_mul_right _ (div_le_roundHalfEven _ _)

/-! ## Integers -/

/-- The number of units that a whole number is rounded to; infinity stands at the bound. -/
def wholeUnits (n : Nat) : Nat :=
  min (roundUnits (n * unitsPerOne) 1) unitsBound

theorem exactBound_mul_lt : exactBound * unitsPerOne < unitsBound := by
  obtain ⟨k, hunit, hbound⟩ := exists_units_eq_two_pow
  rw [exactBound_eq, hunit, hbound, ← Nat.pow_add]
  exact Nat.pow_lt_pow_right (by omega) (by omega)

theorem wholeUnits_of_le {n : Nat} (h : n ≤ exactBound) : wholeUnits n = n * unitsPerOne := by
  have hle : n * unitsPerOne ≤ exactBound * unitsPerOne := Nat.mul_le_mul_right _ h
  have hgrid : spacing (n * unitsPerOne) ∣ n * unitsPerOne := by
    obtain ⟨k, hunit, -⟩ := exists_units_eq_two_pow
    rw [hunit, ← Nat.pow_eq]
    exact spacing_dvd_mul h
  rw [wholeUnits, roundUnits_of_dvd hgrid,
    Nat.min_eq_left (Nat.le_of_lt (Nat.lt_of_le_of_lt hle exactBound_mul_lt))]

theorem le_wholeUnits {n : Nat} (h : exactBound ≤ n) : exactBound * unitsPerOne ≤ wholeUnits n := by
  refine Nat.le_min.2 ⟨?_, Nat.le_of_lt exactBound_mul_lt⟩
  obtain ⟨k, hunit, -⟩ := exists_units_eq_two_pow
  rw [exactBound_eq, hunit, ← Nat.pow_add]
  refine two_pow_le_roundUnits (by omega) ?_
  rw [Nat.pow_add, ← exactBound_eq]
  exact Nat.mul_le_mul_right _ h

theorem Magnitude.ofRatio?_eq_some {p q : Nat} {m : Magnitude} (h : ofRatio? p q = some m) :
    m.units = roundUnits p q ∧ roundUnits p q < unitsBound := by
  unfold ofRatio? at h
  split at h
  · cases h
    exact ⟨rfl, ‹_›⟩
  · cases h

theorem Magnitude.ofRatio?_eq_none {p q : Nat} (h : ofRatio? p q = none) :
    unitsBound ≤ roundUnits p q := by
  unfold ofRatio? at h
  split at h
  · cases h
  · exact Nat.le_of_not_lt ‹_›

namespace Double

theorem rank?_ofRatio (negative : Bool) (p q : Nat) :
    (ofRatio negative p q).rank? =
      some (if negative then -((min (roundUnits p q) unitsBound : Nat) : Int)
        else (min (roundUnits p q) unitsBound : Nat)) := by
  unfold ofRatio
  split
  next m hm =>
    obtain ⟨hunits, hlt⟩ := Magnitude.ofRatio?_eq_some hm
    rw [rank?, hunits, Nat.min_eq_left (Nat.le_of_lt hlt)]
  next hm => rw [rank?, Nat.min_eq_right (Magnitude.ofRatio?_eq_none hm)]

theorem rank?_ofInt (n : Int) :
    (ofInt n).rank? =
      some (if n < 0 then -(wholeUnits n.natAbs : Int) else wholeUnits n.natAbs) := by
  rw [ofInt, rank?_ofRatio, wholeUnits]
  simp only [decide_eq_true_eq]

theorem compare?_of_rank? {a b : Double} {x y : Int} (ha : a.rank? = some x)
    (hb : b.rank? = some y) : a.compare? b = some (compare x y) := by
  simp only [compare?, ha, hb]

/-- Inside of the bound an integer is not rounded. -/
theorem rank?_ofInt_of_le {n : Int} (h : n.natAbs ≤ exactBound) :
    (ofInt n).rank? = some (n * unitsPerOne) := by
  rw [rank?_ofInt, wholeUnits_of_le h, Int.natCast_mul, Int.neg_mul_eq_neg_mul]
  split
  · rw [show -(n.natAbs : Int) = n by omega]
  · rw [show (n.natAbs : Int) = n by omega]

/-- An integer compares with one inside of the bound as if it had not been rounded. -/
theorem compare?_ofInt (a : Int) {b : Int} (hb : b.natAbs < exactBound) :
    (ofInt a).compare? (ofInt b) = some (compare a b) := by
  have hunit : (0 : Int) < unitsPerOne := Int.natCast_pos.2 unitsPerOne_pos
  have hb' := rank?_ofInt_of_le (Nat.le_of_lt hb)
  by_cases ha : a.natAbs ≤ exactBound
  · rw [compare?_of_rank? (rank?_ofInt_of_le ha) hb', Option.some.injEq]
    rcases Int.lt_trichotomy a b with h | rfl | h
    · rw [Int.compare_eq_lt.2 h, Int.compare_eq_lt.2 (Int.mul_lt_mul_of_pos_right h hunit)]
    · rw [Int.compare_eq_eq.2 rfl, Int.compare_eq_eq.2 rfl]
    · rw [Int.compare_eq_gt.2 h, Int.compare_eq_gt.2 (Int.mul_lt_mul_of_pos_right h hunit)]
  · -- Past the bound the rounded number is still past it, and so on the same side of `b`.
    have hfar : ((exactBound * unitsPerOne : Nat) : Int) ≤ wholeUnits a.natAbs :=
      Int.ofNat_le.2 (le_wholeUnits (Nat.le_of_not_le ha))
    rw [Int.natCast_mul] at hfar
    rw [compare?_of_rank? (rank?_ofInt a) hb', Option.some.injEq]
    by_cases hneg : a < 0
    · have hlow : -(exactBound : Int) * unitsPerOne < b * unitsPerOne :=
        Int.mul_lt_mul_of_pos_right (by omega) hunit
      rw [Int.neg_mul] at hlow
      rw [if_pos hneg, Int.compare_eq_lt.2 (by omega : a < b), Int.compare_eq_lt.2 (by omega)]
    · have hhigh : b * unitsPerOne < (exactBound : Int) * unitsPerOne :=
        Int.mul_lt_mul_of_pos_right (by omega) hunit
      rw [if_neg hneg, Int.compare_eq_gt.2 (by omega : b < a), Int.compare_eq_gt.2 (by omega)]

theorem toInt64_of_rank? {d : Double} {r : Int} (h : d.rank? = some r) :
    d.toInt64 = clamp64 (r.tdiv unitsPerOne) := by
  rw [toInt64, h]

theorem toInt64_ofInt {n : Int} (h : n.natAbs ≤ exactBound) : (ofInt n).toInt64 = n := by
  have hunit : (unitsPerOne : Int) ≠ 0 := Int.natCast_ne_zero.2 (Nat.ne_of_gt unitsPerOne_pos)
  rw [toInt64_of_rank? (rank?_ofInt_of_le h), Int.mul_tdiv_cancel n hunit, clamp64_of_natAbs_le h]

end Double

end Logbook
