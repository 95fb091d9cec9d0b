import SqlMapper.Operand
import SqlMapper.Proofs.Calendar.Civil
import SqlMapper.Proofs.Calendar.Reading
import SqlMapper.Proofs.Text.Blank

namespace SqlMapper.Calendar

/-! Stored points in time.

The text under which an instant of the years 0 to 9999 is stored is read back
as the instant cut to milliseconds, and that instant is stored as the same
text.
-/

open Decimal (padded)

def Instant.HasPlainYear (instant : Instant) : Prop :=
  0 ≤ instant.date.civil.year ∧ instant.date.civil.year ≤ 9999

/-- The instant that a stored text names.  A fraction beyond a billion is a leap
second only where it ends a minute; elsewhere the text shows the next second. -/
def Instant.cut (instant : Instant) : Instant where
  date := instant.date
  second := if instant.second % 60 < 59 then instant.second + instant.nanosecond / 1000000000
    else instant.second
  nanosecond := if instant.second % 60 < 59 then instant.nanosecond % 1000000000 / 1000000 * 1000000
    else instant.nanosecond / 1000000 * 1000000
  second_lt := by
    have seconds := instant.second_lt
    have nanoseconds := instant.nanosecond_lt
    split <;> omega
  nanosecond_lt := by
    have nanoseconds := instant.nanosecond_lt
    split <;> omega

theorem Instant.earlier?_zero (instant : Instant) : instant.earlier? 0 = some instant := by
  have bound := instant.second_lt
  have day : instant.seconds / 86400 = instant.date.day := by
    simp only [seconds]
    omega
  have second : (instant.seconds % 86400).toNat = instant.second := by
    simp only [seconds]
    omega
  have date : Date.ofDayNumber? instant.date.day = some instant.date :=
    dif_pos ⟨instant.date.first, instant.date.last⟩
  simp [earlier?, ofSeconds?, day, second, date]

theorem Instant.ofClock?_cut (instant : Instant) :
    ofClock? instant.date (instant.second / 3600) (instant.second / 60 % 60)
        (instant.second % 60 + instant.nanosecond / 1000000000)
        (instant.nanosecond % 1000000000 / 1000000 * 1000000) = some instant.cut := by
  have seconds := instant.second_lt
  have nanoseconds := instant.nanosecond_lt
  rw [ofClock?, dif_pos (by omega), cut]
  simp only [Option.some.injEq, mk.injEq, true_and]
  constructor
  · split <;> omega
  · split <;> split <;> omega

theorem Instant.clock_cut (instant : Instant) :
    instant.cut.second / 3600 = instant.second / 3600 ∧
      instant.cut.second / 60 % 60 = instant.second / 60 % 60 ∧
      instant.cut.second % 60 + instant.cut.nanosecond / 1000000000 =
        instant.second % 60 + instant.nanosecond / 1000000000 ∧
      instant.cut.nanosecond % 1000000000 / 1000000 =
        instant.nanosecond % 1000000000 / 1000000 := by
  have seconds := instant.second_lt
  have nanoseconds := instant.nanosecond_lt
  unfold cut
  dsimp only
  refine ⟨?_, ?_, ?_, ?_⟩ <;> split <;> omega

theorem Instant.stored_cut (instant : Instant) : instant.cut.stored = instant.stored := by
  obtain ⟨hour, minute, second, fraction⟩ := instant.clock_cut
  simp only [stored, render, Precision.render, hour, minute, second, fraction]
  rfl

theorem Instant.toList_stored {instant : Instant} {year : Nat}
    (dated : instant.date.civil.year = year) (short : year < 10000) :
    instant.stored.toList =
      (padded 4 year).toList ++ '-' :: ((padded 2 instant.date.civil.month).toList ++
        '-' :: ((padded 2 instant.date.civil.day).toList ++
        'T' :: ((padded 2 (instant.second / 3600)).toList ++
        ':' :: ((padded 2 (instant.second / 60 % 60)).toList ++
        ':' :: ((padded 2 (instant.second % 60 + instant.nanosecond / 1000000000)).toList ++
        '.' :: ((padded 3 (instant.nanosecond % 1000000000 / 1000000)).toList ++
        ['Z'])))))) := by
  have plain : renderYear instant.date.civil.year = padded 4 year := by
    rw [dated, renderYear, if_pos (by omega)]
    rfl
  simp [stored, render, plain, Precision.render, String.join]

theorem rfc3339_stored {instant : Instant} (plain : instant.HasPlainYear) :
    rfc3339 instant.stored.toList = some (instant.cut, []) := by
  obtain ⟨year, dated⟩ := Int.eq_ofNat_of_zero_le plain.1
  have short : year < 10000 := by have := plain.2; omega
  have seconds := instant.second_lt
  have nanoseconds := instant.nanosecond_lt
  have date : Date.ofCivil? ⟨year, instant.date.civil.month, instant.date.civil.day⟩ =
      some instant.date := by
    rw [← dated]
    exact instant.date.ofCivil?_civil
  rw [Instant.toList_stored dated short, rfc3339,
    Reader.bind_of_read (Reader.fixed_padded _ (by decide) short),
    Reader.bind_of_read (Reader.char_read _ _),
    Reader.bind_of_read (Reader.fixed_padded _ (by decide) instant.date.month_lt),
    Reader.bind_of_read (Reader.char_read _ _),
    Reader.bind_of_read (Reader.fixed_padded _ (by decide) instant.date.day_lt),
    Reader.bind_of_read (Reader.expect_of_accepted _ rfl),
    Reader.bind_of_read (Reader.fixed_padded _ (by decide) (by omega)),
    Reader.bind_of_read (Reader.char_read _ _),
    Reader.bind_of_read (Reader.fixed_padded _ (by decide) (by omega)),
    Reader.bind_of_read (Reader.char_read _ _),
    Reader.bind_of_read (Reader.fixed_padded _ (by decide) (by omega)),
    Reader.bind_of_read (Reader.fraction_milliseconds _ (by omega) rfl),
    Reader.bind_of_read (Reader.zone_universal _),
    Reader.bind_of_read (Reader.lift_read date _),
    Reader.bind_of_read (Reader.lift_read instant.ofClock?_cut _)]
  exact Reader.lift_read instant.cut.earlier?_zero _

theorem Instant.trim_stored {instant : Instant} (plain : instant.HasPlainYear) :
    Text.trim instant.stored = instant.stored := by
  obtain ⟨year, dated⟩ := Int.eq_ofNat_of_zero_le plain.1
  have short : year < 10000 := by have := plain.2; omega
  have count : (padded 4 year).toList.length = 4 := Decimal.length_padded (by decide) short
  apply Text.trim_of_ends
  · intro char first
    rw [Instant.toList_stored dated short] at first
    have leading : char ∈ (padded 4 year).toList := by
      cases digits : (padded 4 year).toList with
      | nil => simp [digits] at count
      | cons digit rest => simp_all
    exact Text.isBlank_of_isDigit (Decimal.isDigit_of_mem_padded leading)
  · intro char last
    have closing : 'Z' = char := by
      simpa [Instant.toList_stored dated short, List.getLast?_append, List.getLast?_cons] using last
    subst closing
    rfl

theorem instant?_stored {instant : Instant} (plain : instant.HasPlainYear) :
    (Value.text instant.stored).instant? = some instant.cut := by
  simp [Value.instant?, instant.trim_stored plain, rfc3339?, Reader.readAll?, rfc3339_stored plain]

end SqlMapper.Calendar
