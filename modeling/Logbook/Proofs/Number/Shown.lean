import Logbook.Proofs.Number.Digits
import Logbook.Proofs.Number.Whole

/-!
# Numbers as they are shown

A number is shown as a whole one if it is, up to a bound (`Double.plainBound`), and as the shortest
decimal in its interval otherwise. Below the bound these keep apart: the text of an integer is shown
for the number that is the integer, and for no other (`Double.text_eq_integerText_iff`). So whether
a number has the value of an integer may be asked of how it is shown (`Double.sameValue_ofInt_iff`).

A number that is not whole could be shown without a point only if a whole number were in its
interval. The interval goes half way to the next numbers at the most (`Magnitude.near_shortest`),
and below the bound a whole number is a number in double precision itself, with no other one so near
(`Magnitude.units_eq_of_near`). Past the bound all that is shown is too large.

The text of an integer is read as the integer rounded (`Double.ofText?_integerText`).
-/

namespace Logbook

open Json

variable {c : Char}

/-- Whole numbers that are written out to the last digit are exact in double precision. -/
theorem plainBound_le_exactBound : Double.plainBound ≤ exactBound := by
  decide

-- As in the theory of whole numbers, a unit may be any power of two.
attribute [local irreducible] unitsPerOne unitsBound

/-! ## Reading -/

theorem Magnitude.eq_of_units_eq {a b : Magnitude} (h : a.units = b.units) : a = b := by
  cases a
  cases b
  cases h
  rfl

namespace Double

theorem toLower_of_isDigit (h : c.isDigit) : c.toLower = c := by
  have hcode := toNat_of_isDigit h
  rw [Char.toLower, dif_neg]
  rintro ⟨hlow, -⟩
  exact absurd (Nat.le_trans (UInt32.le_iff_toNat_le.1 hlow) hcode.2) (by decide)

theorem ofUnsigned?_toDigits (negative : Bool) (n : Nat) :
    ofUnsigned? negative (Nat.toDigits 10 n) = some (ofScaled negative n 0) := by
  have hdigits : ∀ c ∈ Nat.toDigits 10 n, c.isDigit := fun _ => isDigit_of_mem_toDigits
  have hne : (Nat.toDigits 10 n).isEmpty = false := List.isEmpty_eq_false_iff.2 Nat.toDigits_ne_nil
  have htake : (Nat.toDigits 10 n).takeWhile Char.isDigit = Nat.toDigits 10 n :=
    List.takeWhile_eq_self_iff.2 hdigits
  have hdrop : (Nat.toDigits 10 n).dropWhile Char.isDigit = [] :=
    List.dropWhile_eq_nil_iff.2 hdigits
  simp [ofUnsigned?, htake, hdrop, hne, exponent?, digitsValue_toDigits]

theorem ofRatio_eq_finite {negative : Bool} {p q : Nat} {m : Magnitude}
    (h : Magnitude.ofRatio? p q = some m) : ofRatio negative p q = .finite negative m := by
  unfold ofRatio
  split
  next heq => cases h.symm.trans heq; rfl
  next heq => cases h.symm.trans heq

/-- Inside of the bound of exact integers, an integer is a finite number. -/
theorem exists_ofInt {i : Int} (h : i.natAbs ≤ exactBound) :
    ∃ m, ofInt i = .finite (i < 0) m ∧ m.units = i.natAbs * unitsPerOne := by
  have hlt : i.natAbs * unitsPerOne < unitsBound :=
    Nat.lt_of_le_of_lt (Nat.mul_le_mul_right _ h) exactBound_mul_lt
  have hunits := wholeUnits_of_le h
  rw [wholeUnits] at hunits
  rw [ofInt]
  generalize i.natAbs * unitsPerOne = p at hlt hunits
  cases hm : Magnitude.ofRatio? p 1 with
  | none =>
    have hbound := Magnitude.ofRatio?_eq_none hm
    omega
  | some m =>
    obtain ⟨heq, hbound⟩ := Magnitude.ofRatio?_eq_some hm
    exact ⟨m, ofRatio_eq_finite hm, by omega⟩

/-- Zero is read with the sign that it is written with, and written without one. -/
theorem ofScaled_eq_ofInt (i : Int) : ofScaled (i < 0) i.natAbs 0 = ofInt i := by
  unfold ofScaled
  split
  next hzero =>
    obtain rfl := Int.natAbs_eq_zero.1 hzero
    obtain ⟨m, hm, hunits⟩ := exists_ofInt (i := 0) (by decide)
    rw [hm]
    congr 1
    exact Magnitude.eq_of_units_eq (by rw [hunits, Int.natAbs_zero, Nat.zero_mul]; rfl)
  next =>
    rw [if_neg (by decide), if_neg (by rw [unitExponent]; omega), ofDecimal, if_pos (by decide)]
    simp [ofInt]

/-- Digits are neither a sign nor the name of infinity or of no number. -/
theorem ofText?_integerText (i : Int) : ofText? (integerText i) = some (ofInt i) := by
  have hdigits : ∀ c ∈ Nat.toDigits 10 i.natAbs, c.isDigit := fun _ => isDigit_of_mem_toDigits
  have hlower : (Nat.toDigits 10 i.natAbs).map Char.toLower = Nat.toDigits 10 i.natAbs := by
    rw [List.map_congr_left fun c hc => toLower_of_isDigit (hdigits c hc), List.map_id']
  have hname : ∀ s : String, ∀ c ∈ s.toList, ¬c.isDigit →
      String.ofList (Nat.toDigits 10 i.natAbs) ≠ s := by
    rintro s c hc hnot rfl
    rw [String.toList_ofList] at hc
    exact hnot (hdigits c hc)
  have hsign : ∀ c ds, ¬c.isDigit → Nat.toDigits 10 i.natAbs ≠ c :: ds := fun c ds hnot heq =>
    hnot (hdigits c (heq ▸ List.mem_cons_self))
  have hminus : ∀ ds, Nat.toDigits 10 i.natAbs ≠ '-' :: ds := fun ds => hsign _ ds (by decide)
  have hplus : ∀ ds, Nat.toDigits 10 i.natAbs ≠ '+' :: ds := fun ds => hsign _ ds (by decide)
  rw [← ofScaled_eq_ofInt, ← ofUnsigned?_toDigits, integerText, signText]
  unfold ofText?
  cases decide (i < 0)
  all_goals
    simp only [reduceIte, Bool.false_eq_true, List.nil_append, List.singleton_append, hlower]
    split
    next heq => exact absurd heq (hname _ 'i' (by decide) (by decide))
    next heq => exact absurd heq (hname _ 'i' (by decide) (by decide))
    next heq => exact absurd heq (hname _ 'a' (by decide) (by decide))
    next => rfl

end Double

/-! ## Writing -/

namespace Magnitude

variable {m : Magnitude} {tie : Tie} {k : Int} {d : Decimal}

theorem below_le (m : Magnitude) : m.below ≤ 2 * spacing m.units := by
  unfold below
  split <;> omega

theorem le_of_reaches {c : Nat} (h : m.reaches k c) :
    (4 * m.units - m.below) * 10 ^ (-k).toNat ≤ 4 * (c * 10 ^ k.toNat * unitsPerOne) := by
  unfold reaches at h
  split at h
  · exact of_decide_eq_true h
  · exact Nat.le_of_lt (of_decide_eq_true h)

theorem le_of_isReached {c : Nat} (h : m.isReached k c) :
    4 * (c * 10 ^ k.toNat * unitsPerOne) ≤ (4 * m.units + m.above) * 10 ^ (-k).toNat := by
  unfold isReached at h
  split at h
  · exact of_decide_eq_true h
  · exact Nat.le_of_lt (of_decide_eq_true h)

/-- The grid point under a magnitude is not above its interval. -/
theorem isReached_div (m : Magnitude) (k : Int) :
    m.isReached k (m.units * Nat.pow 10 (-k).toNat / (unitsPerOne * Nat.pow 10 k.toNat)) := by
  have hle := Nat.mul_div_le (m.units * Nat.pow 10 (-k).toNat) (unitsPerOne * Nat.pow 10 k.toNat)
  have habove : 0 < m.above * Nat.pow 10 (-k).toNat :=
    Nat.mul_pos (Nat.mul_pos Nat.two_pos (spacing_pos _)) (Nat.pow_pos (by decide))
  unfold isReached
  dsimp only
  rw [Nat.add_mul, Nat.mul_assoc 4, Nat.mul_assoc _ _ unitsPerOne, Nat.mul_comm _ unitsPerOne,
    Nat.mul_comm _ (unitsPerOne * _)]
  split <;> exact decide_eq_true (by omega)

/-- The next grid point is not below its interval. -/
theorem reaches_div_add_one (m : Magnitude) (k : Int) :
    m.reaches k (m.units * Nat.pow 10 (-k).toNat / (unitsPerOne * Nat.pow 10 k.toNat) + 1) := by
  have hgrid : 0 < unitsPerOne * Nat.pow 10 k.toNat :=
    Nat.mul_pos unitsPerOne_pos (Nat.pow_pos (by decide))
  have hlt := Nat.lt_mul_div_succ (m.units * Nat.pow 10 (-k).toNat) hgrid
  have hbelow := Nat.mul_le_mul_right (Nat.pow 10 (-k).toNat) (Nat.sub_le (4 * m.units) m.below)
  rw [Nat.mul_assoc 4] at hbelow
  unfold reaches
  dsimp only
  rw [Nat.mul_assoc _ _ unitsPerOne, Nat.mul_comm _ unitsPerOne, Nat.mul_comm _ (unitsPerOne * _)]
  split <;> exact decide_eq_true (by omega)

/-- What is taken from a grid lies in the interval. -/
theorem onGrid?_eq_some (h : m.onGrid? tie k = some d) :
    d.exponent = k ∧ m.reaches k d.digits ∧ m.isReached k d.digits := by
  have hfloor := m.isReached_div k
  have hceil := m.reaches_div_add_one k
  unfold onGrid? at h
  dsimp only at h
  generalize m.units * Nat.pow 10 (-k).toNat / (unitsPerOne * Nat.pow 10 k.toNat) = c
    at h hfloor hceil
  split at h
  next hr hi => cases h; exact ⟨rfl, hr, hfloor⟩
  next hr hi => cases h; exact ⟨rfl, hceil, hi⟩
  next => cases h
  next hr hi =>
    have hd : d = ⟨c, k⟩ ∨ d = ⟨c + 1, k⟩ := by
      split at h
      · exact .inl (Option.some.inj h).symm
      · split at h
        · exact .inr (Option.some.inj h).symm
        · split at h <;> rw [← Option.some.inj h]
          · exact .inr rfl
          · rcases Nat.mod_two_eq_zero_or_one c with hc | hc <;> simp [hc]
    rcases hd with rfl | rfl
    · exact ⟨rfl, hr, hfloor⟩
    · exact ⟨rfl, hceil, hi⟩

/-- If the shortest decimal is whole, it is not farther from the magnitude than half way to the next
    one. -/
theorem near_shortest (hunits : m.units ≠ 0) (h : 0 ≤ (m.shortest tie).exponent) {p : Nat}
    (hp : (m.shortest tie).digits * 10 ^ (m.shortest tie).exponent.toNat * unitsPerOne = p) :
    4 * m.units ≤ 4 * p + 2 * spacing m.units ∧ 4 * p ≤ 4 * m.units + 2 * spacing m.units := by
  have hshortest : ∃ k, m.onGrid? tie k = some (m.shortest tie) := by
    rw [shortest, if_neg hunits] at h ⊢
    cases hfound : (List.range 20).findSome? fun (i : Nat) => m.onGrid? tie (m.topExponent - i) with
    | none =>
      rw [hfound, Option.getD_none] at h
      exact absurd (Int.neg_nonneg.1 h) (by decide)
    | some d =>
      obtain ⟨i, -, hi⟩ := List.exists_of_findSome?_eq_some hfound
      exact ⟨_, hi⟩
  obtain ⟨k, hk⟩ := hshortest
  obtain ⟨rfl, hreaches, hisReached⟩ := onGrid?_eq_some hk
  have hscale : (-(m.shortest tie).exponent).toNat = 0 := by omega
  have hbelow := m.below_le
  have hlow := le_of_reaches hreaches
  have hhigh := le_of_isReached hisReached
  rw [hscale, Nat.pow_zero, Nat.mul_one, hp] at hlow hhigh
  rw [above] at hhigh
  exact ⟨by omega, hhigh⟩

/-- A point of a grid that is at most half a step past another one is not past it. -/
theorem le_of_mul_le {step a b : Nat} (hstep : 0 < step)
    (h : 4 * (step * a) ≤ 4 * (step * b) + 2 * step) : a ≤ b := by
  by_contra hlt
  have hnext := Nat.mul_le_mul_left step (Nat.lt_of_not_le hlt)
  rw [Nat.mul_succ] at hnext
  omega

/-- Between whole numbers that are written out there is no other number this near to one of them. -/
theorem units_eq_of_near {n : Nat} (h : n < Double.plainBound)
    (hlow : 4 * m.units ≤ 4 * (n * unitsPerOne) + 2 * spacing m.units)
    (hhigh : 4 * (n * unitsPerOne) ≤ 4 * m.units + 2 * spacing m.units) :
    m.units = n * unitsPerOne := by
  obtain ⟨k, hunit, -⟩ := exists_units_eq_two_pow
  by_cases hlog : m.units.log2 - 52 ≤ k
  · -- Whole numbers are on the grid here, on which there is nothing else half a step around.
    have hgrid : spacing m.units ∣ unitsPerOne := by
      rw [hunit, spacing, Nat.pow_eq]
      exact Nat.pow_dvd_pow 2 hlog
    obtain ⟨a, ha⟩ := m.spacing_dvd
    obtain ⟨b, hb⟩ := Nat.dvd_trans hgrid (Nat.dvd_mul_left unitsPerOne n)
    have hpos := spacing_pos m.units
    generalize spacing m.units = step at ha hb hlow hhigh hpos
    rw [ha, hb] at hlow hhigh ⊢
    rw [Nat.le_antisymm (le_of_mul_le hpos hlow) (le_of_mul_le hpos hhigh)]
  · -- Here the magnitude is far past the whole numbers in question.
    have hunits : m.units ≠ 0 := by
      intro hzero
      rw [hzero] at hlog
      exact hlog (Nat.zero_le k)
    have hsplit := two_pow_log2_eq (by omega : 52 ≤ m.units.log2)
    have hfar : 2 ^ 53 * unitsPerOne ≤ 2 ^ m.units.log2 := by
      rw [hunit, ← Nat.pow_add]
      exact Nat.pow_le_pow_right Nat.two_pos (by omega)
    have hself := Nat.log2_self_le hunits
    have hn := Nat.mul_le_mul_right unitsPerOne (Nat.le_of_lt h)
    have hpos := unitsPerOne_pos
    rw [Double.plainBound] at hn
    omega

end Magnitude

namespace Decimal

variable {d : Decimal}

theorem point_mem_plain (h : d.exponent < 0) : '.' ∈ d.plain := by
  rw [plain, if_neg (by omega)]
  dsimp only
  split <;> simp

theorem plain_of_nonneg (h : 0 ≤ d.exponent) :
    d.plain = Nat.toDigits 10 d.digits ++ List.replicate d.exponent.toNat '0' := by
  rw [plain, if_pos h]

theorem isDigit_of_mem_plain (h : 0 ≤ d.exponent) (hc : c ∈ d.plain) : c.isDigit := by
  rw [plain_of_nonneg h, List.mem_append] at hc
  rcases hc with hc | hc
  · exact isDigit_of_mem_toDigits hc
  · rw [List.eq_of_mem_replicate hc]
    decide

theorem mem_plain (hc : c ∈ d.plain) : c = '.' ∨ c.isDigit := by
  by_cases h : 0 ≤ d.exponent
  · exact .inr (isDigit_of_mem_plain h hc)
  · have hdigits : ∀ c ∈ Nat.toDigits 10 d.digits, c.isDigit := fun _ => isDigit_of_mem_toDigits
    rw [plain, if_neg h] at hc
    dsimp only at hc
    split at hc
    next =>
      rcases List.mem_append.1 hc with hc | hc
      · exact .inr (hdigits c (List.mem_of_mem_take hc))
      · exact (List.mem_cons.1 hc).imp_right fun hc => hdigits c (List.mem_of_mem_drop hc)
    next =>
      rw [List.cons_append, List.mem_cons, List.cons_append, List.mem_cons, List.mem_append] at hc
      rcases hc with rfl | rfl | hc | hc
      · exact .inr (by decide)
      · exact .inl rfl
      · rw [List.eq_of_mem_replicate hc]
        exact .inr (by decide)
      · exact .inr (hdigits c hc)

end Decimal

namespace Double

variable {n : Int}

theorem mem_signText {negative : Bool} (h : c ∈ signText negative) : c = '-' := by
  cases negative with
  | false => exact absurd h List.not_mem_nil
  | true => exact List.mem_singleton.1 h

/-- Only a sign, digits and a point stand in a finite number. -/
theorem mem_text_finite {negative : Bool} {m : Magnitude} (h : c ∈ (finite negative m).text) :
    c = '-' ∨ c = '.' ∨ c.isDigit := by
  rw [text] at h
  split at h
  · exact (List.mem_append.1 h).imp mem_signText fun hc => .inr (isDigit_of_mem_toDigits hc)
  · exact (List.mem_append.1 h).imp mem_signText Decimal.mem_plain

/-- A sign is told from the digits after it. -/
theorem signText_append_inj {a b : Bool} {xs ys : List Char} (hxs : ∀ c ∈ xs, c.isDigit)
    (hys : ∀ c ∈ ys, c.isDigit) (h : signText a ++ xs = signText b ++ ys) : a = b ∧ xs = ys := by
  have hminus : ∀ zs : List Char, (∀ c ∈ '-' :: zs, c.isDigit) → False := fun zs hzs =>
    absurd (hzs '-' List.mem_cons_self) (by decide)
  cases a <;> cases b
  · exact ⟨rfl, h⟩
  · obtain rfl : xs = '-' :: ys := h
    exact (hminus _ hxs).elim
  · obtain rfl : '-' :: xs = ys := h
    exact (hminus _ hys).elim
  · exact ⟨rfl, (List.cons.inj h).2⟩

/-- Where the shortest decimal is the text of an integer, the number is the integer. -/
theorem units_eq_of_shortest_text {negative : Bool} {m : Magnitude} (h : n.natAbs < plainBound)
    (htext : signText negative ++ (m.shortest .up).plain = integerText n) :
    m.units = n.natAbs * unitsPerOne := by
  have hexponent : 0 ≤ (m.shortest .up).exponent := by
    by_contra hneg
    have hmem : '.' ∈ integerText n :=
      htext ▸ List.mem_append_right _ (Decimal.point_mem_plain (by omega))
    rcases mem_integerText hmem with ⟨heq, -⟩ | hdigit
    · exact absurd heq (by decide)
    · exact absurd hdigit (by decide)
  obtain ⟨-, hplain⟩ := signText_append_inj (fun _ => Decimal.isDigit_of_mem_plain hexponent)
    (fun _ => isDigit_of_mem_toDigits) htext
  have hvalue := congrArg digitsValue hplain
  rw [Decimal.plain_of_nonneg hexponent, digitsValue_append_zeros, digitsValue_toDigits,
    digitsValue_toDigits] at hvalue
  by_cases hunits : m.units = 0
  · rw [Magnitude.shortest, if_pos hunits] at hvalue
    rw [← hvalue, hunits, Nat.zero_mul, Nat.zero_mul]
  · obtain ⟨hlow, hhigh⟩ := Magnitude.near_shortest hunits hexponent rfl
    rw [hvalue] at hlow hhigh
    exact Magnitude.units_eq_of_near h hlow hhigh

theorem natAbs_ite_neg (negative : Bool) (u : Nat) :
    (if negative then -(u : Int) else u).natAbs = u := by
  split
  · rw [Int.natAbs_neg, Int.natAbs_natCast]
  · rw [Int.natAbs_natCast]

theorem units_eq_of_rank? {negative : Bool} {u : Nat}
    (h : (if negative then -(u : Int) else u) = n * unitsPerOne) :
    u = n.natAbs * unitsPerOne := by
  rw [← natAbs_ite_neg negative u, h, Int.natAbs_mul, Int.natAbs_natCast]

theorem text_of_isWhole {negative : Bool} {m : Magnitude}
    (hunits : m.units = m.whole * unitsPerOne) :
    signText (negative && m.whole ≠ 0) ++ Nat.toDigits 10 m.whole = integerText n ↔
      (if negative then -(m.units : Int) else m.units) = n * unitsPerOne := by
  have hunit : (unitsPerOne : Int) ≠ 0 := Int.natCast_ne_zero.2 (Nat.ne_of_gt unitsPerOne_pos)
  have hvalue : (if negative then -(m.units : Int) else m.units) =
      (if negative then -(m.whole : Int) else m.whole) * unitsPerOne := by
    rw [hunits]
    split <;> push_cast <;> ring
  rw [hvalue, Int.mul_eq_mul_right_iff hunit]
  constructor
  · intro htext
    obtain ⟨hsign, hdigits⟩ := signText_append_inj (fun _ => isDigit_of_mem_toDigits)
      (fun _ => isDigit_of_mem_toDigits) htext
    have hwhole := congrArg digitsValue hdigits
    rw [digitsValue_toDigits, digitsValue_toDigits] at hwhole
    rw [Bool.eq_iff_iff, Bool.and_eq_true, decide_eq_true_iff, decide_eq_true_iff] at hsign
    split
    next hneg => rw [hneg, eq_self_iff_true, true_and] at hsign; omega
    next hneg => have := mt hsign.2 fun hboth => hneg hboth.1; omega
  · rintro rfl
    rw [integerText, natAbs_ite_neg]
    congr 2
    rw [Bool.eq_iff_iff, Bool.and_eq_true, decide_eq_true_iff, decide_eq_true_iff]
    split
    next hneg => rw [hneg, eq_self_iff_true, true_and]; omega
    next hneg => exact iff_of_false (fun hboth => hneg hboth.1) (by omega)

/-- Below the bound of those that are written out, an integer is the text of a number if and only if
    it is its value. -/
theorem text_eq_integerText_iff (d : Double) (h : n.natAbs < plainBound) :
    d.text = integerText n ↔ d.rank? = some (n * unitsPerOne) := by
  have hother : ∀ c, ¬c.isDigit → c ≠ '-' → c ∉ integerText n := fun c hdigit hminus hmem =>
    (mem_integerText hmem).elim (fun hc => hminus hc.1) hdigit
  cases d with
  | nan =>
    refine iff_of_false (fun htext => hother 'N' (by decide) (by decide) ?_) nofun
    rw [← htext]
    decide
  | infinite negative =>
    refine iff_of_false (fun htext => hother 'i' (by decide) (by decide) ?_) fun hrank => ?_
    · rw [← htext]
      exact List.mem_append_right _ (by decide)
    · have hbound := units_eq_of_rank? (Option.some.inj hrank)
      have hle := Nat.mul_le_mul_right unitsPerOne
        (Nat.le_trans (Nat.le_of_lt h) plainBound_le_exactBound)
      have hlt := exactBound_mul_lt
      omega
  | finite negative m =>
    rw [text, rank?, Option.some.injEq]
    split
    next hwhole =>
      exact text_of_isWhole
        (Nat.div_mul_cancel (Nat.dvd_of_mod_eq_zero (of_decide_eq_true hwhole.1))).symm
    next hnot =>
      have hne : m.units ≠ n.natAbs * unitsPerOne := by
        intro hunits
        refine hnot ⟨decide_eq_true ?_, ?_⟩
        · rw [hunits, Nat.mul_mod_left]
        · rwa [Magnitude.whole, hunits, Nat.mul_div_cancel _ unitsPerOne_pos]
      exact iff_of_false (fun htext => hne (units_eq_of_shortest_text h htext)) fun hrank =>
        hne (units_eq_of_rank? hrank)

/-- A number has the value of an integer if and only if it is shown as the integer. -/
theorem sameValue_ofInt_iff (d : Double) (h : n.natAbs < plainBound) :
    d.sameValue (ofInt n) ↔ d.text = integerText n := by
  rw [text_eq_integerText_iff d h, sameValue, decide_eq_true_iff]
  have hn := rank?_ofInt_of_le (Nat.le_trans (Nat.le_of_lt h) plainBound_le_exactBound)
  cases hrank : d.rank? with
  | none => simp [compare?, hrank]
  | some r =>
    rw [compare?_of_rank? hrank hn, Option.some.injEq, Option.some.injEq, Int.compare_eq_eq]

end Double

end Logbook
