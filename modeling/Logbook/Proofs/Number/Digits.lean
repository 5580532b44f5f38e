import Logbook.Json.Text
import Mathlib.Algebra.Group.Nat.Defs

/-!
# Integers as texts

A natural number is written by its digits, without zeros in front, and an integer by those of its
absolute value after a minus sign if it is below zero (`Json.integerText`). The digits are read back
as the number (`digitsValue_toDigits`), also where they are the position in a list
(`natural64?_toDigits`).
-/

namespace Logbook

variable {c : Char} {ds : List Char} {n : Nat}

/-! ## Digits -/

theorem digitsValue_eq (ds : List Char) : digitsValue ds = Nat.ofDigitChars 10 ds 0 := by
  rw [digitsValue, Nat.ofDigitChars_eq_foldl]
  simp only [Nat.mul_comm]

theorem digitsValue_toDigits (n : Nat) : digitsValue (Nat.toDigits 10 n) = n := by
  rw [digitsValue_eq, Nat.ofDigitChars_ten_toDigits]

/-- Zeros at the end multiply by a power of ten. -/
theorem digitsValue_append_zeros (ds : List Char) (k : Nat) :
    digitsValue (ds ++ List.replicate k '0') = digitsValue ds * 10 ^ k := by
  rw [digitsValue_eq, digitsValue_eq, Nat.ofDigitChars_append, Nat.ofDigitChars_replicate_zero,
    Nat.mul_comm]

/-- Zeros in front make no difference. -/
theorem digitsValue_zeros_append (k : Nat) (ds : List Char) :
    digitsValue (List.replicate k '0' ++ ds) = digitsValue ds := by
  rw [digitsValue_eq, digitsValue_eq, Nat.ofDigitChars_append, Nat.ofDigitChars_replicate_zero,
    Nat.mul_zero]

theorem isDigit_of_mem_toDigits (h : c ∈ Nat.toDigits 10 n) : c.isDigit :=
  Nat.isDigit_of_mem_toDigits (by decide) (Nat.le_refl 10) h

theorem toNat_of_isDigit (h : c.isDigit) : 0x30 ≤ c.toNat ∧ c.toNat ≤ 0x39 := by
  simp only [Char.isDigit, Bool.and_eq_true, decide_eq_true_eq, UInt32.le_iff_toNat_le] at h
  exact h

theorem not_isBlank_of_isDigit (h : c.isDigit) : ¬Text.isBlank c := by
  have hcode := toNat_of_isDigit h
  have hspace : c ≠ ' ' := by
    rintro rfl
    exact absurd h (by decide)
  simp only [Text.isBlank, Bool.or_eq_true, Bool.and_eq_true, decide_eq_true_eq, hspace, false_or]
  omega

/-- A number is read only if all of its text is digits. -/
theorem natural64?_toDigits (h : n < 0x10000000000000000) :
    natural64? (Nat.toDigits 10 n) = some n := by
  have hdigits : ∀ c ∈ Nat.toDigits 10 n, c.isDigit := fun _ => isDigit_of_mem_toDigits
  have hsign : ∀ ds, Nat.toDigits 10 n ≠ '+' :: ds := fun ds heq =>
    absurd (hdigits '+' (heq ▸ List.mem_cons_self)) (by decide)
  have hall : (Nat.toDigits 10 n).all Char.isDigit := List.all_eq_true.2 hdigits
  have hne : (Nat.toDigits 10 n).isEmpty = false := List.isEmpty_eq_false_iff.2 Nat.toDigits_ne_nil
  unfold natural64?
  split
  next ds heq => exact absurd heq (hsign ds)
  next => simp [hall, hne, digitsValue_toDigits, h]

/-! ## Integers -/

namespace Json

theorem integerText_natCast (n : Nat) : integerText n = Nat.toDigits 10 n := by
  rw [integerText, Double.signText, if_neg (by simp), List.nil_append, Int.natAbs_natCast]

theorem integerText_negSucc (n : Nat) :
    integerText (.negSucc n) = '-' :: Nat.toDigits 10 (n + 1) := by
  rw [integerText, Double.signText, if_pos (by simp), List.singleton_append, Int.natAbs_negSucc]

/-- The standard library writes an integer in the same way. -/
theorem toString_eq_integerText (i : Int) : toString i = String.ofList (integerText i) := by
  cases i with
  | ofNat n =>
    rw [Int.ofNat_eq_natCast, integerText_natCast, ← Nat.toString_eq_ofList_toDigits]
    rfl
  | negSucc n =>
    show "-" ++ toString (n + 1) = _
    rw [integerText_negSucc, Nat.toString_eq_ofList_toDigits, ← List.singleton_append,
      String.ofList_append]

/-- Only a sign and digits stand in an integer. -/
theorem mem_integerText {i : Int} (h : c ∈ integerText i) : c = '-' ∧ i < 0 ∨ c.isDigit := by
  rw [integerText, List.mem_append] at h
  rcases h with h | h
  · rw [Double.signText] at h
    split at h
    next hneg => exact .inl ⟨List.mem_singleton.1 h, of_decide_eq_true hneg⟩
    next => exact absurd h List.not_mem_nil
  · exact .inr (isDigit_of_mem_toDigits h)

end Json

end Logbook
