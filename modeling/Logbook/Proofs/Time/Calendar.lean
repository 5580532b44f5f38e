import Logbook.Time.Calendar

/-!
# Days and dates

The day of a number of days is a day of the calendar (`Date.isValid_ofDays`), and counting the days
up to it gives the number back (`Date.toDays_ofDays`).

Both follow from how a number of days is taken apart (`Date.Parts`): into four hundred years at a
time, years of these, and days of a year that begins in March. That the division by the length of a
year finds the right year (`Date.year_bounds`) is all that has to be known of the leap days that it
takes into account; where a year ends is said by `Date.daysBefore`.
-/

namespace Logbook.Date

/-- The days from the 1st of March of the year 0 to that of another year. -/
def daysBefore (year : Int) : Int :=
  365 * year + year / 4 - year / 100 + year / 400

theorem isLeap_iff {year : Int} :
    isLeap year ↔ year % 4 = 0 ∧ (year % 100 ≠ 0 ∨ year % 400 = 0) := by
  rw [isLeap, Bool.and_eq_true, Bool.or_eq_true, decide_eq_true_iff, decide_eq_true_iff,
    decide_eq_true_iff]

theorem isLeap_add_mul (year cycle : Int) : isLeap (year + cycle * 400) = isLeap year := by
  rw [Bool.eq_iff_iff, isLeap_iff, isLeap_iff]
  omega

/-- A year that begins in March ends with the leap day of the next one, if that has one. -/
theorem daysBefore_add_one (year : Int) :
    daysBefore (year + 1) = daysBefore year + if isLeap (year + 1) then 366 else 365 := by
  unfold daysBefore
  split
  next h =>
    rw [isLeap_iff] at h
    omega
  next h =>
    rw [isLeap_iff] at h
    omega

theorem monthLength_le (year : Int) (month : Nat) : monthLength year month ≤ 31 := by
  unfold monthLength
  split
  · split <;> omega
  all_goals omega

/-- The months from March to January, counted from 0, are as long in every year. -/
theorem monthLength_eq (year : Int) {m : Int} (h : 0 ≤ m ∧ m ≤ 10) :
    (monthLength year (if 10 ≤ m then m - 9 else m + 3).toNat : Int) =
      (153 * (m + 1) + 2) / 5 - (153 * m + 2) / 5 := by
  have hcases : m = 0 ∨ m = 1 ∨ m = 2 ∨ m = 3 ∨ m = 4 ∨ m = 5 ∨ m = 6 ∨ m = 7 ∨ m = 8 ∨ m = 9 ∨
      m = 10 := by omega
  rcases hcases with rfl | rfl | rfl | rfl | rfl | rfl | rfl | rfl | rfl | rfl | rfl <;> rfl

/-! ## Taking days apart -/

/-- A day of four hundred years belongs to the year that is found by division, once the leap days
    before it are taken away. -/
theorem year_bounds {c a b e y : Int} (hc : 0 ≤ c ∧ c < cycleDays) (ha : a = c / 1460)
    (hb : b = c / 36524) (he : e = c / 146096) (hy : y = (c - a + b - e) / 365) :
    (0 ≤ y ∧ y ≤ 399) ∧ daysBefore y ≤ c ∧ c < daysBefore (y + 1) := by
  unfold daysBefore
  unfold cycleDays at hc
  by_cases hlast : c = 146096
  · subst hlast
    omega
  · -- On all days but the last one, the century of the day is that of the year.
    obtain rfl : e = 0 := by omega
    have hcentury : b = 0 ∨ b = 1 ∨ b = 2 ∨ b = 3 := by omega
    have hyear : y / 100 = b := by
      rcases hcentury with rfl | rfl | rfl | rfl <;> omega
    have hleap : y / 4 ≤ a := by omega
    refine ⟨by omega, by omega, ?_⟩
    by_cases hend : y + 1 = 100 * (b + 1)
    · rcases hcentury with rfl | rfl | rfl | rfl <;> omega
    · have hnext : (y + 1) / 100 = b := by omega
      have hcycle : (y + 1) / 400 = 0 := by omega
      rw [hnext, hcycle]
      omega

/-- The parts of a number of days, and the date that they give. -/
structure Parts (days : Int) where
  /-- The times that four hundred years have passed. -/
  cycle : Int
  /-- The year of four hundred, from 0. It begins in March. -/
  year : Int
  /-- The day of the year, from 0. -/
  inYear : Int
  /-- The month of the year, from 0. -/
  month : Int
  year_mem : 0 ≤ year ∧ year ≤ 399
  inYear_mem : 0 ≤ inYear ∧ inYear < if isLeap (year + 1) then 366 else 365
  days_eq : days + epochDay = cycle * cycleDays + (daysBefore year + inYear)
  month_eq : month = (5 * inYear + 2) / 153
  ofDays_eq : ofDays days = ⟨year + cycle * 400 + if 10 ≤ month then 1 else 0,
    (if 10 ≤ month then month - 9 else month + 3).toNat,
    (inYear - (153 * month + 2) / 5 + 1).toNat⟩

theorem nonempty_parts (days : Int) : Nonempty (Parts days) := by
  have hcycle : 0 ≤ (days + epochDay) % cycleDays ∧ (days + epochDay) % cycleDays < cycleDays := by
    unfold cycleDays
    omega
  have hdays : days + epochDay =
      (days + epochDay) / cycleDays * cycleDays + (days + epochDay) % cycleDays := by
    rw [Int.mul_comm, Int.mul_ediv_add_emod]
  obtain ⟨hyear, hstart, hend⟩ := year_bounds hcycle rfl rfl rfl rfl
  have hofDays : ofDays days = ofDays days := rfl
  conv at hofDays =>
    rhs
    unfold ofDays
    dsimp only
  generalize (days + epochDay) % cycleDays = c at *
  generalize (c - c / 1460 + c / 36524 - c / 146096) / 365 = year at *
  have hinYear : c - (365 * year + year / 4 - year / 100) = c - daysBefore year := by
    unfold daysBefore
    omega
  rw [hinYear] at hofDays
  rw [daysBefore_add_one] at hend
  exact ⟨⟨_, year, c - daysBefore year, _, hyear, by omega, by omega, rfl, hofDays⟩⟩

namespace Parts

variable {days : Int}

theorem inYear_lt (p : Parts days) : p.inYear < 366 := by
  have h := p.inYear_mem.2
  split at h <;> omega

theorem month_mem (p : Parts days) :
    0 ≤ p.month ∧ p.month ≤ 11 ∧ (153 * p.month + 2) / 5 ≤ p.inYear := by
  have hinYear := p.inYear_mem.1
  have hlt := p.inYear_lt
  have hmonth := p.month_eq
  omega

/-- The month is as long as its days in the year are, and February as the year leaves it. -/
theorem day_le (p : Parts days) : (ofDays days).day ≤
    monthLength (ofDays days).year (ofDays days).month := by
  have hmonths := p.month_mem
  have hmonth := p.month_eq
  rw [p.ofDays_eq]
  dsimp only
  by_cases hfebruary : p.month = 11
  · have hinYear := p.inYear_mem.2
    rw [hfebruary]
    change _ ≤ if isLeap (p.year + p.cycle * 400 + 1) then 29 else 28
    rw [show p.year + p.cycle * 400 + 1 = p.year + 1 + p.cycle * 400 by omega, isLeap_add_mul]
    split at hinYear <;> split <;> omega
  · have hlength := monthLength_eq (p.year + p.cycle * 400 + if 10 ≤ p.month then 1 else 0)
      ⟨hmonths.1, (by omega : p.month ≤ 10)⟩
    omega

end Parts

/-! ## There and back -/

theorem toDays_ofDays (days : Int) : (ofDays days).toDays = days := by
  obtain ⟨p⟩ := nonempty_parts days
  have hyear := p.year_mem
  have hmonths := p.month_mem
  have hdays := p.days_eq
  rw [p.ofDays_eq]
  unfold toDays
  dsimp only
  unfold daysBefore at hdays
  unfold cycleDays epochDay at *
  split <;> split <;> omega

theorem isValid_ofDays {days : Int} (hmin : minYear ≤ (ofDays days).year)
    (hmax : (ofDays days).year ≤ maxYear) : (ofDays days).isValid := by
  obtain ⟨p⟩ := nonempty_parts days
  have hmonths := p.month_mem
  have hmonth : 1 ≤ (ofDays days).month ∧ (ofDays days).month ≤ 12 := by
    rw [p.ofDays_eq]
    dsimp only
    split <;> omega
  have hday : 1 ≤ (ofDays days).day := by
    rw [p.ofDays_eq]
    dsimp only
    omega
  simp only [isValid, Bool.and_eq_true, decide_eq_true_eq]
  exact ⟨⟨⟨⟨⟨hmin, hmax⟩, hmonth.1⟩, hmonth.2⟩, hday⟩, p.day_le⟩

end Logbook.Date
