import Logbook.Proofs.Number.Whole
import Logbook.Proofs.Time.Calendar
import Logbook.Time.Instant

/-!
# The span of time

Dates are only reckoned in some half a million years, and so the instants that can be written down
are not arbitrary integers: in milliseconds they all stay inside of the bound up to which integers
are exact in double precision (`Instant.natAbs_lt_of_ofText?`).
-/

namespace Logbook

open Text

theorem Date.toDays_bounds {d : Date} (h : d.isValid) :
    -97000000 < d.toDays ∧ d.toDays < 97000000 := by
  have hmonth := monthLength_le d.year d.month
  simp only [isValid, Bool.and_eq_true, decide_eq_true_eq] at h
  simp only [minYear, maxYear] at h
  simp only [toDays, cycleDays, epochDay]
  split <;> omega

theorem digitsValue_append_singleton (ds : List Char) (d : Char) :
    digitsValue (ds ++ [d]) = digitsValue ds * 10 + (d.toNat - '0'.toNat) := by
  rw [digitsValue, List.foldl_append]
  rfl

theorem digitsValue_lt {ds : List Char} (h : ∀ d ∈ ds, d.isDigit) :
    digitsValue ds < 10 ^ ds.length := by
  induction ds using List.reverseRecOn with
  | nil => exact Nat.one_pos
  | append_singleton ds d ih =>
    have hd : d.toNat ≤ '9'.toNat := by
      have := h d (by simp)
      simp only [Char.isDigit, Bool.and_eq_true, decide_eq_true_eq] at this
      exact this.2
    have := ih fun e he => h e (List.mem_append_left _ he)
    rw [digitsValue_append_singleton, List.length_append, List.length_singleton, Nat.pow_succ]
    simp only [show '0'.toNat = 48 from rfl, show '9'.toNat = 57 from rfl] at hd ⊢
    omega

namespace Instant

/-- At most nine digits are read of a fraction, and all but three are cut off. -/
theorem fraction?_lt {cs rest : List Char} {milli : Nat} (h : fraction? cs = some (milli, rest)) :
    milli < 1000 := by
  unfold fraction? at h
  split at h
  · next digits =>
    simp only [Option.ite_none_left_eq_some, Option.some.injEq, Prod.mk.injEq] at h
    obtain ⟨-, rfl, -⟩ := h
    have hlen : (leading 9 digits).length ≤ 9 :=
      Nat.le_trans (List.takeWhile_prefix _).length_le (List.length_take_le ..)
    have hval : digitsValue (leading 9 digits) < 10 ^ (leading 9 digits).length :=
      digitsValue_lt fun _ hd => List.all_eq_true.mp List.all_takeWhile _ hd
    refine Nat.div_lt_of_lt_mul ?_
    calc _ < 10 ^ (leading 9 digits).length * 10 ^ (9 - (leading 9 digits).length) :=
          Nat.mul_lt_mul_of_pos_right hval (Nat.pow_pos (by omega))
      _ = 10 ^ 9 := by rw [← Nat.pow_add]; congr 1; omega
      _ = 1000000 * 1000 := rfl
  · simp only [Option.some.injEq, Prod.mk.injEq] at h
    omega

theorem offset?_bounds {cs rest : List Char} {offset : Int} (h : offset? cs = some (offset, rest)) :
    -1440 < offset ∧ offset < 1440 := by
  cases cs with
  | nil => cases h
  | cons c cs =>
    simp only [offset?] at h
    split at h
    · simp only [Option.some.injEq, Prod.mk.injEq] at h
      omega
    · simp only [Option.bind_eq_bind, Option.ite_none_right_eq_some, Option.bind_eq_some_iff,
        Prod.exists, Option.some.injEq, Prod.mk.injEq] at h
      obtain ⟨-, hours, _, -, _, -, minutes, _, -, hvalid, rfl, -⟩ := h
      split <;> omega

/-- A whole day is left between the readings and the bound, for their offsets. -/
theorem Reading.toMillis_bounds {r : Reading} (h : r.isValid) (hmilli : r.milli < 1000) :
    -9000000000000000 < r.toMillis ∧ r.toMillis < 9000000000000000 := by
  simp only [isValid, Bool.and_eq_true, decide_eq_true_eq] at h
  have := Date.toDays_bounds h.1.1.1
  unfold toMillis
  omega

/-- What holds of the results of the rest holds of those of the whole. -/
theorem of_bind {α β : Type} {x : Option α} {f : α → Option β} {P : β → Prop}
    (h : ∀ a, x = some a → ∀ b, f a = some b → P b) : ∀ b, (x >>= f) = some b → P b := by
  intro b hb
  obtain ⟨a, ha, hf⟩ := Option.bind_eq_some_iff.1 hb
  exact h a ha b hf

theorem internet?_bounds {cs : List Char} : ∀ t, internet? cs = some t → t.natAbs < exactBound := by
  -- Of the numbers that are read, only the fraction and the offset are bounded by how they are
  -- read; the others are bounded by the test at the end.
  refine of_bind fun (_, _) _ => of_bind fun _ _ => of_bind fun (_, _) _ => of_bind fun _ _ =>
    of_bind fun (_, _) _ => of_bind fun _ _ => of_bind fun (_, _) _ => of_bind fun _ _ =>
    of_bind fun (_, _) _ => of_bind fun _ _ => of_bind fun (_, _) _ =>
    of_bind fun (milli, _) hmilli => of_bind fun (offset, _) hoffset => fun t h => ?_
  obtain ⟨⟨-, hvalid⟩, ht⟩ := Option.ite_none_right_eq_some.1 h
  have hread := Reading.toMillis_bounds hvalid (fraction?_lt hmilli)
  have hshift := offset?_bounds hoffset
  rw [← Option.some.inj ht]
  unfold exactBound
  omega

theorem clock?_bounds {date : Date} {cs : List Char} :
    ∀ t, clock? date cs = some t → t.natAbs < exactBound := by
  refine of_bind fun (_, _) _ => of_bind fun _ _ => of_bind fun (_, _) _ => of_bind fun _ _ =>
    of_bind fun (_, _) _ => of_bind fun (milli, _) hmilli => fun t h => ?_
  obtain ⟨⟨-, hvalid⟩, ht⟩ := Option.ite_none_right_eq_some.1 h
  have hread := Reading.toMillis_bounds hvalid (fraction?_lt hmilli)
  rw [← Option.some.inj ht]
  unfold exactBound
  omega

theorem joined?_bounds {cs : List Char} : ∀ t, joined? cs = some t → t.natAbs < exactBound :=
  of_bind fun (_, _) _ => of_bind fun _ _ => clock?_bounds

theorem spaced?_bounds {cs : List Char} : ∀ t, spaced? cs = some t → t.natAbs < exactBound :=
  of_bind fun (_, _) _ => clock?_bounds

theorem day?_bounds {cs : List Char} : ∀ t, day? cs = some t → t.natAbs < exactBound := by
  refine of_bind fun (_, _) _ t h => ?_
  obtain ⟨⟨-, hvalid⟩, ht⟩ := Option.ite_none_right_eq_some.1 h
  have hread := Reading.toMillis_bounds hvalid (Nat.zero_lt_succ 999)
  rw [← Option.some.inj ht]
  unfold exactBound
  omega

/-- A written instant is exact in double precision. -/
theorem natAbs_lt_of_ofText? {s : String} {t : Int} (h : ofText? s = some t) :
    t.natAbs < exactBound := by
  simp only [ofText?, Option.orElse_eq_orElse, Option.orElse_eq_or, Option.or_eq_some_iff] at h
  rcases h with h | ⟨-, h | ⟨-, h | ⟨-, h⟩⟩⟩
  · exact internet?_bounds t h
  · exact joined?_bounds t h
  · exact spaced?_bounds t h
  · exact day?_bounds t h

end Instant

end Logbook
