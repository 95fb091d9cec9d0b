import SqlMapper.Proofs.Binding.Outcome
import SqlMapper.Proofs.Calendar.Stored
import SqlMapper.Proofs.Calendar.Succession
import SqlMapper.Proofs.Decimal.Ordered

namespace SqlMapper

/-! Stored points in time in order.

Whatever it was read from, an instant of the years 0 to 9999 that is no leap second is
stored as one text, which names its millisecond.  These texts stand in the order of the
milliseconds, so that the database can compare them as texts.
-/

namespace Calendar.Instant

open Decimal (padded padded_lt_iff)

variable {instant left right : Instant}

theorem floored_lt (instant : Instant) :
    instant.nanosecond / 1000000 * 1000000 < 2000000000 := by
  have bound := instant.nanosecond_lt
  omega

/-- The instant truncated down to the millisecond. -/
def floored (instant : Instant) : Instant where
  date := instant.date
  second := instant.second
  nanosecond := instant.nanosecond / 1000000 * 1000000
  second_lt := instant.second_lt
  nanosecond_lt := floored_lt instant

/-- The instant lies in a year of four digits and is no leap second. -/
structure IsOrdinary (instant : Instant) : Prop where
  plain : instant.HasPlainYear
  proper : instant.nanosecond < 1000000000

theorem IsOrdinary.cut_eq (ordinary : instant.IsOrdinary) : instant.cut = instant.floored := by
  have proper := ordinary.proper
  simp only [cut, floored, mk.injEq, true_and]
  constructor <;> split <;> omega

theorem IsOrdinary.stored_floored (ordinary : instant.IsOrdinary) :
    instant.floored.stored = instant.stored := by
  rw [← ordinary.cut_eq, stored_cut]

theorem IsOrdinary.instant?_stored (ordinary : instant.IsOrdinary) :
    (Value.text instant.stored).instant? = some instant.floored := by
  rw [← ordinary.cut_eq]
  exact Calendar.instant?_stored ordinary.plain

theorem IsOrdinary.ofMilliseconds?_milliseconds (ordinary : instant.IsOrdinary) :
    ofMilliseconds? instant.milliseconds = some instant.floored := by
  have proper := ordinary.proper
  have bound := instant.second_lt
  have day : instant.milliseconds / 1000 / 86400 = instant.date.day := by
    simp only [milliseconds, seconds]
    omega
  have second : (instant.milliseconds / 1000 % 86400).toNat = instant.second := by
    simp only [milliseconds, seconds]
    omega
  have nanosecond : (instant.milliseconds % 1000).toNat * 1000000 =
      instant.nanosecond / 1000000 * 1000000 := by
    simp only [milliseconds, seconds]
    omega
  have date : Date.ofDayNumber? instant.date.day = some instant.date :=
    dif_pos ⟨instant.date.first, instant.date.last⟩
  simp [ofMilliseconds?, ofSeconds?, day, second, nanosecond, date, floored]

/-- Milliseconds stand in the order of dates and then of times of day. -/
theorem milliseconds_lt_iff (leftOrdinary : left.IsOrdinary) (rightOrdinary : right.IsOrdinary) :
    left.milliseconds < right.milliseconds ↔
      left.date.day < right.date.day ∨ left.date.day = right.date.day ∧
        (left.second < right.second ∨ left.second = right.second ∧
          left.nanosecond / 1000000 < right.nanosecond / 1000000) := by
  have leftSecond := left.second_lt
  have rightSecond := right.second_lt
  have leftProper := leftOrdinary.proper
  have rightProper := rightOrdinary.proper
  simp only [milliseconds, seconds]
  omega

/-- Times of day stand in the order of hours, minutes, seconds and milliseconds. -/
theorem clock_lt_iff (leftOrdinary : left.IsOrdinary) (rightOrdinary : right.IsOrdinary) :
    (left.second < right.second ∨ left.second = right.second ∧
        left.nanosecond / 1000000 < right.nanosecond / 1000000) ↔
      left.second / 3600 < right.second / 3600 ∨ left.second / 3600 = right.second / 3600 ∧
        (left.second / 60 % 60 < right.second / 60 % 60 ∨
          left.second / 60 % 60 = right.second / 60 % 60 ∧
          (left.second % 60 + left.nanosecond / 1000000000 <
              right.second % 60 + right.nanosecond / 1000000000 ∨
            left.second % 60 + left.nanosecond / 1000000000 =
              right.second % 60 + right.nanosecond / 1000000000 ∧
            left.nanosecond % 1000000000 / 1000000 < right.nanosecond % 1000000000 / 1000000)) := by
  have leftProper := leftOrdinary.proper
  have rightProper := rightOrdinary.proper
  rw [Nat.div_eq_of_lt leftProper, Nat.div_eq_of_lt rightProper, Nat.mod_eq_of_lt leftProper,
    Nat.mod_eq_of_lt rightProper]
  omega

theorem date_eq_iff : left.date.day = right.date.day ↔
    left.date.civil.year = right.date.civil.year ∧
      left.date.civil.month = right.date.civil.month ∧
      left.date.civil.day = right.date.civil.day := by
  have before := Date.day_lt_iff left.date right.date
  have behind := Date.day_lt_iff right.date left.date
  omega

theorem stored_lt_iff (leftOrdinary : left.IsOrdinary) (rightOrdinary : right.IsOrdinary) :
    left.stored < right.stored ↔ left.milliseconds < right.milliseconds := by
  obtain ⟨leftYear, leftDated⟩ := Int.eq_ofNat_of_zero_le leftOrdinary.plain.1
  obtain ⟨rightYear, rightDated⟩ := Int.eq_ofNat_of_zero_le rightOrdinary.plain.1
  have leftShort : leftYear < 10000 := by have := leftOrdinary.plain.2; omega
  have rightShort : rightYear < 10000 := by have := rightOrdinary.plain.2; omega
  have leftSecond := left.second_lt
  have rightSecond := right.second_lt
  have leftProper := leftOrdinary.proper
  have rightProper := rightOrdinary.proper
  rw [String.lt_iff, toList_stored leftDated leftShort, toList_stored rightDated rightShort,
    padded_lt_iff (by decide) leftShort rightShort, List.cons_lt_cons_self,
    padded_lt_iff (by decide) left.date.month_lt right.date.month_lt, List.cons_lt_cons_self,
    padded_lt_iff (by decide) left.date.day_lt right.date.day_lt, List.cons_lt_cons_self,
    padded_lt_iff (by decide) (by omega) (by omega), List.cons_lt_cons_self,
    padded_lt_iff (by decide) (by omega) (by omega), List.cons_lt_cons_self,
    padded_lt_iff (by decide) (by omega) (by omega), List.cons_lt_cons_self,
    padded_lt_iff (by decide) (by omega) (by omega),
    milliseconds_lt_iff leftOrdinary rightOrdinary, clock_lt_iff leftOrdinary rightOrdinary,
    date_eq_iff, Date.day_lt_iff, leftDated, rightDated]
  -- Both sides are now the same comparison, date before time of day.
  simp only [Int.ofNat_lt, Int.ofNat_inj, List.lt_irrefl, and_false, or_false, and_or_left,
    or_assoc, and_assoc]

theorem stored_eq_iff (leftOrdinary : left.IsOrdinary) (rightOrdinary : right.IsOrdinary) :
    left.stored = right.stored ↔ left.milliseconds = right.milliseconds := by
  constructor
  · intro same
    have before := stored_lt_iff leftOrdinary rightOrdinary
    have behind := stored_lt_iff rightOrdinary leftOrdinary
    simp only [same, String.lt_irrefl, false_iff] at before behind
    omega
  · intro same
    have floors := leftOrdinary.ofMilliseconds?_milliseconds
    rw [same, rightOrdinary.ofMilliseconds?_milliseconds, Option.some.injEq] at floors
    rw [← leftOrdinary.stored_floored, ← floors, rightOrdinary.stored_floored]

end Calendar.Instant

open Calendar (Instant)

variable {field : Field} {value other : Value} {instant later : Instant}

theorem Field.bindsText_of_date (dated : field.type = .date)
    (read : value.instant? = some instant) : field.BindsText value instant.stored := by
  intro parameters
  have given : value.isNull = false := by
    cases value with
    | null => cases read
    | bool _ | int _ | float _ | text _ | timestamp _ | list _ | json _ => rfl
  have held : Operand.stored field value = .ok (.text instant.stored) := by
    simp only [Operand.stored, dated, read]
  rw [Operand.outcome_compile_stored given (by simp [dated]), held]

/-- What a date is bound as depends on its millisecond alone: the text is read back as
the instant truncated down to it and bound again as the same text, and texts stand in the order
of milliseconds. -/
theorem dates_bound_in_order (dated : field.type = .date) (read : value.instant? = some instant)
    (ordinary : instant.IsOrdinary) (otherRead : other.instant? = some later)
    (otherOrdinary : later.IsOrdinary) :
    field.BindsText value instant.stored ∧ field.BindsText other later.stored ∧
      (Value.text instant.stored).instant? = some instant.floored ∧
      Instant.ofMilliseconds? instant.milliseconds = some instant.floored ∧
      field.BindsText (.text instant.stored) instant.stored ∧
      (instant.stored < later.stored ↔ instant.milliseconds < later.milliseconds) ∧
      (instant.stored = later.stored ↔ instant.milliseconds = later.milliseconds) := by
  have again := Field.bindsText_of_date dated ordinary.instant?_stored
  rw [ordinary.stored_floored] at again
  exact ⟨Field.bindsText_of_date dated read, Field.bindsText_of_date dated otherRead,
    ordinary.instant?_stored, ordinary.ofMilliseconds?_milliseconds, again,
    Instant.stored_lt_iff ordinary otherOrdinary, Instant.stored_eq_iff ordinary otherOrdinary⟩

/-- Half a millisecond before the start of 1970. -/
def eve : Instant where
  date := { day := -1, first := by decide, last := by decide }
  second := 86399
  nanosecond := 999500000
  second_lt := by decide
  nanosecond_lt := by decide

def epoch : Instant where
  date := { day := 0, first := by decide, last := by decide }
  second := 0
  nanosecond := 0
  second_lt := by decide
  nanosecond_lt := by decide

/-- Before 1970, too, a date is truncated to the millisecond before it. -/
theorem dates_bound_in_order_eve :
    let born : Field := { name := "born", type := .date }
    (Value.text "1969-12-31 23:59:59.9995").instant? = some eve ∧
      (Value.int 0).instant? = some epoch ∧
      born.BindsText (.text "1969-12-31 23:59:59.9995") "1969-12-31T23:59:59.999Z" ∧
      born.BindsText (.int 0) "1970-01-01T00:00:00.000Z" ∧
      eve.milliseconds = -1 ∧
      (Value.text "1969-12-31T23:59:59.999Z").instant? = Instant.ofMilliseconds? (-1) ∧
      born.BindsText (.text "1969-12-31T23:59:59.999Z") "1969-12-31T23:59:59.999Z" ∧
      "1969-12-31T23:59:59.999Z" < "1970-01-01T00:00:00.000Z" := by
  intro born
  have read : (Value.text "1969-12-31 23:59:59.9995").instant? = some eve := by decide +kernel
  have readEpoch : (Value.int 0).instant? = some epoch := rfl
  have stored : eve.stored = "1969-12-31T23:59:59.999Z" := rfl
  have storedEpoch : epoch.stored = "1970-01-01T00:00:00.000Z" := rfl
  have dated : born.type = .date := rfl
  have ordinary : eve.IsOrdinary := ⟨⟨by decide, by decide⟩, by decide⟩
  have epochOrdinary : epoch.IsOrdinary := ⟨⟨by decide, by decide⟩, by decide⟩
  obtain ⟨bound, boundEpoch, back, floor, again, order, _⟩ :=
    dates_bound_in_order dated read ordinary readEpoch epochOrdinary
  rw [stored] at bound back again order
  rw [storedEpoch] at boundEpoch order
  exact ⟨read, readEpoch, bound, boundEpoch, rfl, back.trans floor.symm, again,
    order.mpr (by decide)⟩

end SqlMapper
