import Mathlib.Algebra.Order.Group.Unbundled.Int
import SqlMapper.Proofs.Calendar.Civil

namespace SqlMapper.Calendar

/-! Days in order.

Calendar dates that exist follow one another by year, month and day as their day numbers
do.  Months are counted from March of the year 0, and every month ends before the next
one starts.
-/

namespace Civil

/-- The number of the month since March of the year 0. -/
def monthIndex (civil : Civil) : Int :=
  civil.year * 12 + civil.month - 3

/-- The day number before the first day of a month. -/
def monthStart (index : Int) : Int :=
  365 * (index / 12) + index / 12 / 4 - index / 12 / 100 + index / 12 / 400 +
    (153 * (index % 12) + 2) / 5 - 719469

theorem monthIndex_parts {civil : Civil} (first : 1 ≤ civil.month) (last : civil.month ≤ 12) :
    civil.monthIndex / 12 = (if civil.month ≤ 2 then civil.year - 1 else civil.year) ∧
      civil.monthIndex % 12 = ((civil.month + 9) % 12 : Nat) := by
  unfold monthIndex
  constructor
  · split <;> omega
  · omega

theorem dayNumber_eq {civil : Civil} (first : 1 ≤ civil.month) (last : civil.month ≤ 12) :
    civil.dayNumber = monthStart civil.monthIndex + civil.day := by
  obtain ⟨year, month⟩ := monthIndex_parts first last
  rw [dayNumber, monthStart, year, month]
  omega

theorem monthStart_le_succ (index : Int) : monthStart index ≤ monthStart (index + 1) := by
  unfold monthStart
  omega

theorem monthStart_le {earlier later : Int} (order : earlier ≤ later) :
    monthStart earlier ≤ monthStart later := by
  induction later, order using Int.leInduction with
  | base => exact Int.le_refl _
  | succ later _ ih => exact Int.le_trans ih (monthStart_le_succ later)

theorem daysInMonth_february (year : Int) :
    monthStart (year * 12 - 1) + daysInMonth year 2 ≤ monthStart (year * 12) := by
  have here : (year * 12 - 1) / 12 = year - 1 ∧ (year * 12 - 1) % 12 = 11 := by omega
  have next : year * 12 / 12 = year ∧ year * 12 % 12 = 0 := by omega
  rw [monthStart, monthStart, here.1, here.2, next.1, next.2, daysInMonth]
  by_cases leap : isLeapYear year = true
  · rw [if_pos leap]
    simp only [isLeapYear, Bool.and_eq_true, Bool.or_eq_true, beq_iff_eq, bne_iff_ne] at leap
    obtain ⟨four, century | cycle⟩ := leap
    · omega
    · omega
  · rw [if_neg leap]
    omega

/-- Within a year that starts in March, the months are as long as their starts are apart. -/
theorem daysInMonth_in_year (year : Int) {month : Nat} (first : 1 ≤ month) (last : month ≤ 12)
    (other : month ≠ 2) :
    (153 * ((month + 9) % 12 : Nat) + 2 : Int) / 5 + daysInMonth year month ≤
      (153 * ((month + 9) % 12 + 1 : Nat) + 2) / 5 := by
  have months : month = 1 ∨ month = 3 ∨ month = 4 ∨ month = 5 ∨ month = 6 ∨ month = 7 ∨
      month = 8 ∨ month = 9 ∨ month = 10 ∨ month = 11 ∨ month = 12 := by omega
  rcases months with rfl | rfl | rfl | rfl | rfl | rfl | rfl | rfl | rfl | rfl | rfl
  all_goals simp [daysInMonth]

/-- A month has no more days than there are before the next one. -/
theorem daysInMonth_le_step {civil : Civil} (first : 1 ≤ civil.month) (last : civil.month ≤ 12) :
    monthStart civil.monthIndex + daysInMonth civil.year civil.month ≤
      monthStart (civil.monthIndex + 1) := by
  by_cases february : civil.month = 2
  · have before : civil.monthIndex = civil.year * 12 - 1 := by
      unfold monthIndex
      omega
    rw [before, Int.sub_add_cancel, february]
    exact daysInMonth_february civil.year
  · obtain ⟨_, month⟩ := monthIndex_parts first last
    have sameYear : (civil.monthIndex + 1) / 12 = civil.monthIndex / 12 := by omega
    have nextMonth : (civil.monthIndex + 1) % 12 = ((civil.month + 9) % 12 + 1 : Nat) := by omega
    have within := daysInMonth_in_year civil.year first last february
    rw [monthStart, monthStart, sameYear, nextMonth, month]
    omega

theorem dayNumber_lt_of_month_lt {left right : Civil} (leftValid : left.isValid = true)
    (rightValid : right.isValid = true) (order : left.monthIndex < right.monthIndex) :
    left.dayNumber < right.dayNumber := by
  obtain ⟨first, last, _, leftDay⟩ := (isValid_iff left).mp leftValid
  obtain ⟨rightFirst, rightLast, rightDay, _⟩ := (isValid_iff right).mp rightValid
  have step := daysInMonth_le_step first last
  have starts := monthStart_le (Int.add_one_le_of_lt order)
  rw [dayNumber_eq first last, dayNumber_eq rightFirst rightLast]
  omega

/-- Dates stand in the order of year, month and day. -/
theorem dayNumber_lt_iff {left right : Civil} (leftValid : left.isValid = true)
    (rightValid : right.isValid = true) :
    left.dayNumber < right.dayNumber ↔
      left.year < right.year ∨ left.year = right.year ∧
        (left.month < right.month ∨ left.month = right.month ∧ left.day < right.day) := by
  obtain ⟨first, last, _, _⟩ := (isValid_iff left).mp leftValid
  obtain ⟨rightFirst, rightLast, _, _⟩ := (isValid_iff right).mp rightValid
  have leftIndex : left.monthIndex = left.year * 12 + left.month - 3 := rfl
  have rightIndex : right.monthIndex = right.year * 12 + right.month - 3 := rfl
  rcases Int.lt_trichotomy left.monthIndex right.monthIndex with earlier | same | later
  · have order := dayNumber_lt_of_month_lt leftValid rightValid earlier
    omega
  · rw [dayNumber_eq first last, dayNumber_eq rightFirst rightLast, same]
    omega
  · have order := dayNumber_lt_of_month_lt rightValid leftValid later
    omega

end Civil

theorem Date.day_lt_iff (left right : Date) :
    left.day < right.day ↔
      left.civil.year < right.civil.year ∨ left.civil.year = right.civil.year ∧
        (left.civil.month < right.civil.month ∨
          left.civil.month = right.civil.month ∧ left.civil.day < right.civil.day) := by
  have order := Civil.dayNumber_lt_iff (Civil.isValid_ofDayNumber left.day)
    (Civil.isValid_ofDayNumber right.day)
  rwa [Civil.dayNumber_ofDayNumber, Civil.dayNumber_ofDayNumber] at order

end SqlMapper.Calendar
