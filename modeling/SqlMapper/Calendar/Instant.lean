import SqlMapper.Calendar.Date
import SqlMapper.Decimal.Integer

/-!
Points in time, in coordinated universal time.

An instant is a day, a second of that day and a nanosecond. Within a leap second the second stays
at the one before and the nanosecond runs on past a billion, so that `23:59:60` is kept.
-/

namespace SqlMapper.Calendar

structure Instant where
  date : Date
  second : Nat
  nanosecond : Nat
  second_lt : second < 86400
  nanosecond_lt : nanosecond < 2000000000
deriving DecidableEq, Repr

namespace Instant

def ofSeconds? (seconds : Int) (nanosecond : Nat) (small : nanosecond < 2000000000) :
    Option Instant :=
  (Date.ofDayNumber? (seconds / 86400)).map fun date =>
    { date, nanosecond
      second := (seconds % 86400).toNat
      second_lt := by omega
      nanosecond_lt := small }

def ofMilliseconds? (milliseconds : Int) : Option Instant :=
  ofSeconds? (milliseconds / 1000) ((milliseconds % 1000).toNat * 1000000) (by omega)

def seconds (instant : Instant) : Int :=
  instant.date.day * 86400 + instant.second

def milliseconds (instant : Instant) : Int :=
  instant.seconds * 1000 + instant.nanosecond / 1000000

/-- The same reading of the clock the given number of seconds earlier, if in range. -/
def earlier? (instant : Instant) (seconds : Int) : Option Instant :=
  ofSeconds? (instant.seconds - seconds) instant.nanosecond instant.nanosecond_lt

/-- The instant of a date and a time of day. A second of 60 is a leap second. -/
def ofClock? (date : Date) (hour minute second nanosecond : Nat) : Option Instant :=
  if within : hour < 24 ∧ minute < 60 ∧ second ≤ 60 ∧ nanosecond < 1000000000 then
    some {
      date
      second := hour * 3600 + minute * 60 + min second 59
      nanosecond := if second = 60 then nanosecond + 1000000000 else nanosecond
      second_lt := by omega
      nanosecond_lt := by split <;> omega }
  else none

inductive Precision where
  /-- None, three, six or nine: the fewest that lose nothing. -/
  | exact
  | milliseconds
  | nanoseconds
deriving DecidableEq, Repr

def Precision.render (precision : Precision) (nanosecond : Nat) : String :=
  match precision with
  | .milliseconds => "." ++ Decimal.padded 3 (nanosecond / 1000000)
  | .nanoseconds => "." ++ Decimal.padded 9 nanosecond
  | .exact =>
    if nanosecond = 0 then ""
    else if nanosecond % 1000000 = 0 then "." ++ Decimal.padded 3 (nanosecond / 1000000)
    else if nanosecond % 1000 = 0 then "." ++ Decimal.padded 6 (nanosecond / 1000)
    else "." ++ Decimal.padded 9 nanosecond

/-- A year: four digits, and a sign in front outside the years 0 to 9999. -/
def renderYear (year : Int) : String :=
  if 0 ≤ year ∧ year ≤ 9999 then Decimal.padded 4 year.toNat
  else (if year < 0 then "-" else "+") ++ Decimal.padded 4 year.natAbs

def render (instant : Instant) (precision : Precision) (zone : String) : String :=
  let civil := instant.date.civil
  let leap := instant.nanosecond / 1000000000
  String.join [
    renderYear civil.year, "-", Decimal.padded 2 civil.month, "-", Decimal.padded 2 civil.day, "T",
    Decimal.padded 2 (instant.second / 3600), ":",
    Decimal.padded 2 (instant.second / 60 % 60), ":",
    Decimal.padded 2 (instant.second % 60 + leap),
    precision.render (instant.nanosecond % 1000000000), zone]

end Instant

end SqlMapper.Calendar
