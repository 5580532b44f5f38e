import Logbook.Proofs.Number.Digits
import Logbook.Proofs.Text.Trimming
import Logbook.Proofs.Time.Calendar
import Logbook.Time.Instant

/-!
# Written instants

An instant is taken apart into a day and the time in it (`Instant.reading`), and written as digits
of fixed widths with signs between them. Read from there, a number of a width is the one that was
written, whatever comes after it (`Instant.exactly?_padded`), so that all parts are read again
(`Instant.internet?_padded`). They are a day of the calendar and a time that there is
(`Instant.isValid_reading`), and give the instant back (`Instant.toMillis_reading`).

The form has room for years of four digits; other years are written with a sign in front. So an
instant of a year of four digits is read from its text (`Instant.exists_text?`).
-/

namespace Logbook.Instant

open Text

variable {c : Char} {cs : List Char} {n w : Nat}

/-! ## Numbers of a width -/

theorem isDigit_of_mem_padded (h : c ∈ padded w n) : c.isDigit := by
  rcases List.mem_append.1 h with h | h
  · rw [List.eq_of_mem_replicate h]
    decide
  · exact isDigit_of_mem_toDigits h

theorem digitsValue_padded (w n : Nat) : digitsValue (padded w n) = n := by
  rw [padded, digitsValue_zeros_append, digitsValue_toDigits]

theorem length_padded (hw : 0 < w) (h : n < 10 ^ w) : (padded w n).length = w := by
  have hlength : (Nat.toDigits 10 n).length ≤ w := (Nat.length_toDigits_le_iff (by decide) hw).2 h
  rw [padded, List.length_append, List.length_replicate]
  omega

theorem exactly?_padded (hw : 0 < w) (h : n < 10 ^ w) (cs : List Char) :
    exactly? w (padded w n ++ cs) = some (n, cs) := by
  have hlength := length_padded hw h
  have hdigits : (padded w n).all Char.isDigit := List.all_eq_true.2 fun _ => isDigit_of_mem_padded
  rw [exactly?, List.take_left' hlength, List.drop_left' hlength, if_pos ⟨hlength, hdigits⟩,
    digitsValue_padded]

theorem char?_cons (c : Char) (cs : List Char) : char? c (c :: cs) = some cs :=
  if_pos rfl

theorem fraction?_padded (h : n < 1000) :
    fraction? ('.' :: (padded 3 n ++ ['Z'])) = some (n, ['Z']) := by
  have hlength : (padded 3 n).length = 3 := length_padded (by decide) h
  have hdigits : ∀ c ∈ padded 3 n, c.isDigit := fun _ => isDigit_of_mem_padded
  have hleading : leading 9 (padded 3 n ++ ['Z']) = padded 3 n := by
    rw [leading, List.take_of_length_le (by simp [hlength]), List.takeWhile_append_of_pos hdigits]
    simp
  have hrest : (padded 3 n ++ ['Z']).dropWhile Char.isDigit = ['Z'] := by
    rw [List.dropWhile_append_of_pos hdigits]
    rfl
  have hne : (padded 3 n).isEmpty = false := by
    rw [List.isEmpty_eq_false_iff, ← List.length_pos_iff, hlength]
    decide
  rw [fraction?, hleading, hrest, hne]
  simp [hlength, digitsValue_padded]

/-! ## Instants -/

theorem Reading.lt_of_isValid {r : Reading} (h : r.isValid) :
    r.date.month < 10 ^ 2 ∧ r.date.day < 10 ^ 2 ∧ r.hour < 10 ^ 2 ∧ r.minute < 10 ^ 2 ∧
      r.second < 10 ^ 2 := by
  have hlength := Date.monthLength_le r.date.year r.date.month
  simp only [isValid, Date.isValid, Bool.and_eq_true, decide_eq_true_eq] at h
  omega

theorem bind_eq_some {α β : Type} {o : Option α} {f : α → Option β} {a : α} {b : β}
    (ho : o = some a) (hf : f a = some b) : (o >>= f) = some b :=
  Option.bind_eq_some_iff.2 ⟨a, ho, hf⟩

/-- What is written with all digits is read. -/
theorem internet?_padded {r : Reading} {year : Nat} (hyear : r.date.year = year)
    (hdigits : year < 10 ^ 4) (hvalid : r.isValid) (hmilli : r.milli < 1000) :
    internet? (padded 4 year ++ '-' :: (padded 2 r.date.month ++ '-' :: (padded 2 r.date.day ++
      'T' :: (padded 2 r.hour ++ ':' :: (padded 2 r.minute ++ ':' :: (padded 2 r.second ++
        '.' :: (padded 3 r.milli ++ ['Z']))))))) = some r.toMillis := by
  obtain ⟨hmonth, hday, hhour, hminute, hsecond⟩ := Reading.lt_of_isValid hvalid
  have hreading : (⟨⟨year, r.date.month, r.date.day⟩, r.hour, r.minute, r.second, r.milli⟩ :
      Reading) = r := by
    rw [← hyear]
  have hoffset : offset? ['Z'] = some (0, []) := rfl
  unfold internet?
  refine bind_eq_some (exactly?_padded (by decide) hdigits _) (bind_eq_some (char?_cons _ _) ?_)
  refine bind_eq_some (exactly?_padded Nat.two_pos hmonth _) (bind_eq_some (char?_cons _ _) ?_)
  refine bind_eq_some (exactly?_padded Nat.two_pos hday _) (bind_eq_some rfl ?_)
  refine bind_eq_some (exactly?_padded Nat.two_pos hhour _) (bind_eq_some (char?_cons _ _) ?_)
  refine bind_eq_some (exactly?_padded Nat.two_pos hminute _) (bind_eq_some (char?_cons _ _) ?_)
  refine bind_eq_some (exactly?_padded Nat.two_pos hsecond _) ?_
  refine bind_eq_some (fraction?_padded hmilli) (bind_eq_some hoffset ?_)
  dsimp only
  rw [hreading, if_pos ⟨rfl, hvalid⟩, Int.zero_mul, Int.sub_zero]

/-- The reading of an instant in universal time. -/
def reading (t : Int) : Reading :=
  let inDay := (t % dayMillis).toNat
  ⟨Date.ofDays (t / dayMillis), inDay / 3600000, inDay / 60000 % 60, inDay / 1000 % 60,
    inDay % 1000⟩

theorem toMillis_reading (t : Int) : (reading t).toMillis = t := by
  simp only [reading, Reading.toMillis, Date.toDays_ofDays]
  unfold dayMillis
  omega

theorem isValid_reading {t : Int} (hmin : Date.minYear ≤ (reading t).date.year)
    (hmax : (reading t).date.year ≤ Date.maxYear) : (reading t).isValid := by
  have htime : (reading t).hour < 24 ∧ (reading t).minute < 60 ∧ (reading t).second ≤ 60 := by
    unfold reading dayMillis
    dsimp only
    omega
  rw [Reading.isValid, Bool.and_eq_true, Bool.and_eq_true, Bool.and_eq_true, decide_eq_true_iff,
    decide_eq_true_iff, decide_eq_true_iff]
  exact ⟨⟨⟨Date.isValid_ofDays hmin hmax, htime.1⟩, htime.2.1⟩, htime.2.2⟩

theorem text?_eq_some {t : Int} (h : (reading t).date.isValid) :
    text? t = some (yearText (reading t).date.year ++ '-' :: padded 2 (reading t).date.month ++
      '-' :: padded 2 (reading t).date.day ++ 'T' :: padded 2 (reading t).hour ++
      ':' :: padded 2 (reading t).minute ++ ':' :: padded 2 (reading t).second ++
      '.' :: padded 3 (reading t).milli ++ ['Z']) :=
  if_pos h

/-- What stands in a written instant besides digits. -/
def signs : List Char :=
  ['-', '+', 'T', ':', '.', 'Z']

theorem mem_text? {t : Int} (h : text? t = some cs) (hc : c ∈ cs) :
    c.isDigit ∨ c ∈ signs := by
  have hpadded : ∀ w n, c ∈ padded w n → c.isDigit ∨ c ∈ signs :=
    fun _ _ hc => .inl (isDigit_of_mem_padded hc)
  have hyear : ∀ y, c ∈ yearText y → c.isDigit ∨ c ∈ signs := by
    intro y hc
    rw [yearText] at hc
    split at hc
    · exact hpadded _ _ hc
    · rcases List.mem_cons.1 hc with rfl | hc
      · split <;> exact .inr (by decide)
      · exact hpadded _ _ hc
  unfold text? at h
  obtain ⟨-, h⟩ := Option.ite_none_right_eq_some.1 h
  cases h
  simp only [List.mem_append, List.mem_cons, List.not_mem_nil, or_false] at hc
  rcases hc with (((((((hc | rfl | hc) | rfl | hc) | rfl | hc) | rfl | hc) | rfl | hc) | rfl | hc) |
    rfl)
  · exact hyear _ hc
  all_goals first | exact hpadded _ _ hc | exact .inr (by decide)

theorem not_isBlank_of_mem_text? {t : Int} (h : text? t = some cs) (hc : c ∈ cs) : ¬isBlank c := by
  rcases mem_text? h hc with hdigit | hsign
  · exact not_isBlank_of_isDigit hdigit
  · have hsigns : signs.any isBlank = false := by decide
    exact List.any_eq_false.1 hsigns c hsign

/-- An instant of a year of four digits is written in the internet form, from which it is read. -/
theorem exists_text? {t : Int} (hyear : 0 ≤ (reading t).date.year ∧ (reading t).date.year ≤ 9999) :
    ∃ cs, text? t = some cs ∧ ofText? (String.ofList cs) = some t := by
  have hvalid : (reading t).isValid :=
    isValid_reading (Int.le_trans (by decide) hyear.1) (Int.le_trans hyear.2 (by decide))
  have hdate : (reading t).date.isValid := by
    rw [Reading.isValid, Bool.and_eq_true, Bool.and_eq_true, Bool.and_eq_true] at hvalid
    exact hvalid.1.1.1
  have hmilli : (reading t).milli < 1000 := Nat.mod_lt _ (by decide)
  obtain ⟨year, hyearNat⟩ := Int.eq_ofNat_of_zero_le hyear.1
  have hread := internet?_padded hyearNat (by omega) hvalid hmilli
  rw [toMillis_reading] at hread
  have hyearText : yearText (reading t).date.year = padded 4 year := by
    rw [yearText, if_pos hyear, hyearNat, Int.toNat_natCast]
  have htext := text?_eq_some hdate
  refine ⟨_, htext, ?_⟩
  rw [ofText?, String.toList_ofList, trim_of_forall_not fun _ => not_isBlank_of_mem_text? htext,
    hyearText]
  simp only [List.append_assoc, List.cons_append] at hread ⊢
  rw [hread]
  rfl

end Logbook.Instant
