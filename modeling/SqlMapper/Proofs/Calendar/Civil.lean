import SqlMapper.Calendar.Date

namespace SqlMapper.Calendar

/-! Day numbers and calendar dates.

Every day number has a calendar date that exists, and the date has that day
number. Years start in March here, so that the leap day is the last of a year.
-/

namespace Civil

def yearStart (year : Int) : Int :=
  365 * year + year / 4 - year / 100

/-- Within a century the guess for the year is right about the centuries before
it, and at most one off in counting leap days. -/
theorem year_of_century {day year century : Int}
    (first : 36524 * century ≤ day) (last : day < 36524 * (century + 1))
    (which : century = 0 ∨ century = 1 ∨ century = 2 ∨ century = 3)
    (guess : year = (day - day / 1460 + century) / 365) :
    year / 100 = century ∧ (year / 4 = day / 1460 ∨ year / 4 = day / 1460 - 1) := by
  rcases which with rfl | rfl | rfl | rfl <;> omega

/-- The year found for a day of a cycle contains the day, and only a year that
ends with a leap day has a day of number 365. -/
theorem year_of_cycle (day : Int) {year : Int} (first : 0 ≤ day) (last : day < 146097)
    (guess : year = (day - day / 1460 + day / 36524 - day / 146096) / 365) :
    0 ≤ year ∧ year < 400 ∧ yearStart year ≤ day ∧ day - yearStart year ≤ 365 ∧
      (day - yearStart year = 365 → year % 4 = 3 ∧ (year % 100 = 99 → year = 399)) := by
  unfold yearStart
  by_cases leap : day = 146096
  · subst leap
    omega
  · obtain ⟨century, same⟩ : ∃ century, century = day / 36524 := ⟨_, rfl⟩
    have which : century = 0 ∨ century = 1 ∨ century = 2 ∨ century = 3 := by omega
    have before : day / 146096 = 0 := by omega
    rw [before, ← same, Int.sub_zero] at guess
    obtain ⟨hundreds, fours⟩ := year_of_century (by omega) (by omega) which guess
    rw [hundreds]
    rcases which with rfl | rfl | rfl | rfl <;> omega

/-- The parts of the calendar date of a day number: the cycle, the year in the
cycle, and the day in the year, from which the month follows. -/
theorem ofDayNumber_parts (day : Int) :
    ∃ cycle year dayOfYear month : Int,
      day + 719468 = cycle * 146097 + yearStart year + dayOfYear ∧
      0 ≤ year ∧ year < 400 ∧ 0 ≤ dayOfYear ∧ dayOfYear ≤ 365 ∧
      (dayOfYear = 365 → year % 4 = 3 ∧ (year % 100 = 99 → year = 399)) ∧
      month = (5 * dayOfYear + 2) / 153 ∧
      ofDayNumber day =
        { year := cycle * 400 + year + if month < 10 then 0 else 1
          month := (if month < 10 then month + 3 else month - 9).toNat
          day := (dayOfYear - (153 * month + 2) / 5 + 1).toNat } := by
  obtain ⟨lower, upper, first, last, leap⟩ :=
    year_of_cycle ((day + 719468) % 146097) (by omega) (by omega) rfl
  refine ⟨(day + 719468) / 146097, _, _, _, ?_, lower, upper, Int.sub_nonneg.mpr first, last,
    leap, rfl, ?_⟩
  · omega
  · unfold ofDayNumber yearStart at *
    dsimp only
    congr 2
    split <;> split <;> omega

/-- Counted from March, the month of a calendar date is the one that its day of the year was put
in. -/
theorem fromMarch_month (month : Int) (first : 0 ≤ month) (last : month < 12) :
    (((if month < 10 then month + 3 else month - 9).toNat + 9) % 12 : Nat) = month := by
  split <;> omega

theorem dayNumber_ofDayNumber (day : Int) : (ofDayNumber day).dayNumber = day := by
  obtain ⟨cycle, year, dayOfYear, month, total, lower, upper, first, last, -, found, parts⟩ :=
    ofDayNumber_parts day
  have marched := fromMarch_month month (by omega) (by omega)
  have inMarchYear : (if (if month < 10 then month + 3 else month - 9).toNat ≤ 2 then
      cycle * 400 + year + (if month < 10 then 0 else 1) - 1
      else cycle * 400 + year + if month < 10 then 0 else 1) = cycle * 400 + year := by
    split <;> split <;> omega
  have cycles : (cycle * 400 + year) / 400 = cycle := by omega
  have years : (cycle * 400 + year) % 400 = year := by omega
  rw [parts]
  simp only [dayNumber, inMarchYear, cycles, years, marched]
  unfold yearStart at total
  omega

theorem isLeapYear_of_last_day {cycle year : Int} (fourth : year % 4 = 3)
    (century : year % 100 = 99 → year = 399) :
    isLeapYear (cycle * 400 + year + 1) = true := by
  have divides : (cycle * 400 + year + 1) % 4 = 0 := by omega
  have exception : (cycle * 400 + year + 1) % 100 ≠ 0 ∨ (cycle * 400 + year + 1) % 400 = 0 := by
    omega
  simpa [isLeapYear, divides] using exception

theorem isValid_iff (civil : Civil) :
    civil.isValid = true ↔
      1 ≤ civil.month ∧ civil.month ≤ 12 ∧ 1 ≤ civil.day ∧
        civil.day ≤ daysInMonth civil.year civil.month := by
  simp [isValid, and_assoc]

theorem day_of_february (cycle : Int) {year dayOfYear : Int} (last : dayOfYear ≤ 365)
    (leap : dayOfYear = 365 → year % 4 = 3 ∧ (year % 100 = 99 → year = 399)) :
    (dayOfYear - 336).toNat ≤ daysInMonth (cycle * 400 + year + 1) 2 := by
  by_cases leapDay : dayOfYear = 365
  · obtain ⟨fourth, century⟩ := leap leapDay
    simp [daysInMonth, isLeapYear_of_last_day fourth century, leapDay]
  · simp only [daysInMonth]
    split <;> omega

theorem isValid_ofDayNumber (day : Int) : (ofDayNumber day).isValid = true := by
  obtain ⟨cycle, year, dayOfYear, month, -, -, -, first, last, leap, found, parts⟩ :=
    ofDayNumber_parts day
  have months : month = 0 ∨ month = 1 ∨ month = 2 ∨ month = 3 ∨ month = 4 ∨ month = 5 ∨
      month = 6 ∨ month = 7 ∨ month = 8 ∨ month = 9 ∨ month = 10 ∨ month = 11 := by omega
  have february := day_of_february cycle last leap
  rw [parts, isValid_iff]
  rcases months with rfl | rfl | rfl | rfl | rfl | rfl | rfl | rfl | rfl | rfl | rfl | rfl
  case inr.inr.inr.inr.inr.inr.inr.inr.inr.inr.inr =>
    have counted : (dayOfYear - (153 * 11 + 2) / 5 + 1).toNat = (dayOfYear - 336).toNat := by omega
    rw [counted]
    exact ⟨by simp, by simp, (by omega : 1 ≤ (dayOfYear - 336).toNat), february⟩
  -- The length of every other month is the same in all years.
  all_goals
    refine ⟨by simp, by simp, ?_, ?_⟩ <;> simp [daysInMonth] <;> omega

end Civil

theorem Date.month_lt (date : Date) : date.civil.month < 100 := by
  obtain ⟨-, last, -, -⟩ := (Civil.isValid_iff _).mp (Civil.isValid_ofDayNumber date.day)
  exact Nat.lt_of_le_of_lt last (by decide)

theorem daysInMonth_le (year : Int) (month : Nat) : daysInMonth year month ≤ 31 := by
  unfold daysInMonth
  split
  · split <;> decide
  all_goals decide

theorem Date.day_lt (date : Date) : date.civil.day < 100 := by
  obtain ⟨-, -, -, last⟩ := (Civil.isValid_iff _).mp (Civil.isValid_ofDayNumber date.day)
  exact Nat.lt_of_le_of_lt (Nat.le_trans last (daysInMonth_le _ _)) (by decide)

theorem Date.ofCivil?_civil (date : Date) : ofCivil? date.civil = some date := by
  rw [ofCivil?, civil, Civil.isValid_ofDayNumber, if_pos rfl, Civil.dayNumber_ofDayNumber]
  exact dif_pos ⟨date.first, date.last⟩

end SqlMapper.Calendar
