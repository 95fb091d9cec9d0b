/-!
Days of the proleptic Gregorian calendar.

A `Date` is a day number counted from 1 January 1970, within the years -262143 to 262142. The year
0 exists and precedes the year 1. `Date.ofCivil?` and `Date.civil` go between day numbers and
calendar dates; both count years from March, so that the leap day ends the year.
-/

namespace SqlMapper.Calendar

structure Civil where
  year : Int
  month : Nat
  day : Nat
deriving DecidableEq, Repr

def isLeapYear (year : Int) : Bool :=
  year % 4 == 0 && (year % 100 != 0 || year % 400 == 0)

def daysInMonth (year : Int) (month : Nat) : Nat :=
  match month with
  | 2 => if isLeapYear year then 29 else 28
  | 4 | 6 | 9 | 11 => 30
  | _ => 31

namespace Civil

def isValid (civil : Civil) : Bool :=
  1 ≤ civil.month && civil.month ≤ 12 && 1 ≤ civil.day &&
    civil.day ≤ daysInMonth civil.year civil.month

/-- The number of days from 1 January 1970 to a calendar date. -/
def dayNumber (civil : Civil) : Int :=
  let year := if civil.month ≤ 2 then civil.year - 1 else civil.year
  let cycle := year / 400
  let yearOfCycle := year % 400
  let monthFromMarch := (civil.month + 9) % 12
  let dayOfYear : Int := (153 * monthFromMarch + 2) / 5 + civil.day - 1
  let dayOfCycle := yearOfCycle * 365 + yearOfCycle / 4 - yearOfCycle / 100 + dayOfYear
  cycle * 146097 + dayOfCycle - 719468

def ofDayNumber (day : Int) : Civil :=
  let shifted := day + 719468
  let cycle := shifted / 146097
  let dayOfCycle := shifted % 146097
  let yearOfCycle :=
    (dayOfCycle - dayOfCycle / 1460 + dayOfCycle / 36524 - dayOfCycle / 146096) / 365
  let dayOfYear := dayOfCycle - (365 * yearOfCycle + yearOfCycle / 4 - yearOfCycle / 100)
  let monthFromMarch := (5 * dayOfYear + 2) / 153
  let day := dayOfYear - (153 * monthFromMarch + 2) / 5 + 1
  let month := if monthFromMarch < 10 then monthFromMarch + 3 else monthFromMarch - 9
  { year := cycle * 400 + yearOfCycle + (if month ≤ 2 then 1 else 0)
    month := month.toNat
    day := day.toNat }

end Civil

/-- A day of the calendar, from 1 January -262143 to 31 December 262142. -/
structure Date where
  day : Int
  first : -96465292 ≤ day
  last : day ≤ 95026236
deriving DecidableEq, Repr

namespace Date

def ofDayNumber? (day : Int) : Option Date :=
  if range : -96465292 ≤ day ∧ day ≤ 95026236 then some ⟨day, range.1, range.2⟩ else none

def ofCivil? (civil : Civil) : Option Date :=
  if civil.isValid then ofDayNumber? civil.dayNumber else none

def civil (date : Date) : Civil :=
  Civil.ofDayNumber date.day

end Date

end SqlMapper.Calendar
