import SqlMapper.Calendar.Reader
import SqlMapper.Proofs.Decimal.Padded

namespace SqlMapper.Calendar.Reader

/-! What each reader takes off the front of a text that was written to be read. -/

open Decimal (padded ofDigits digitValue)

variable {α β : Type}

theorem bind_of_read {reader : Reader α} {next : α → Reader β} {chars rest : List Char} {value : α}
    (read : reader chars = some (value, rest)) : (reader >>= next) chars = next value rest := by
  change (reader chars >>= fun pair => next pair.1 pair.2) = _
  rw [read]
  rfl

theorem lift_read {found : Option α} {value : α} (present : found = some value)
    (chars : List Char) : (liftM found : Reader α) chars = some (value, chars) := by
  subst present
  rfl

theorem expect_of_accepted {accept : Char → Bool} {first : Char} (rest : List Char)
    (accepted : accept first = true) : expect accept (first :: rest) = some (first, rest) :=
  if_pos accepted

theorem char_read (wanted : Char) (rest : List Char) :
    char wanted (wanted :: rest) = some ((), rest) :=
  bind_of_read (expect_of_accepted rest (beq_self_eq_true wanted))

theorem takeDigits_of_count {most : Nat} {digits : List Char} (rest : List Char)
    (count : digits.length = most) (valid : ∀ char ∈ digits, char.isDigit = true) :
    takeDigits most (digits ++ rest) = (digits.map digitValue, rest) := by
  induction digits generalizing most with
  | nil =>
      subst count
      rfl
  | cons digit digits ih =>
      subst count
      have following := ih rfl fun char member => valid char (List.mem_cons_of_mem _ member)
      simp [takeDigits, Decimal.digit?_of_isDigit (valid digit List.mem_cons_self), following]

theorem takeDigits_of_end {most : Nat} {digits : List Char} {stop : Char} (rest : List Char)
    (room : digits.length < most) (valid : ∀ char ∈ digits, char.isDigit = true)
    (ends : Decimal.digit? stop = none) :
    takeDigits most (digits ++ stop :: rest) = (digits.map digitValue, stop :: rest) := by
  induction digits generalizing most with
  | nil =>
      obtain ⟨less, rfl⟩ := Nat.exists_eq_add_one_of_ne_zero (Nat.ne_of_gt room)
      simp [takeDigits, ends]
  | cons digit digits ih =>
      obtain ⟨less, rfl⟩ := Nat.exists_eq_add_one_of_ne_zero (Nat.ne_of_gt (Nat.zero_lt_of_lt room))
      have following := ih (Nat.lt_of_succ_lt_succ room) fun char member =>
        valid char (List.mem_cons_of_mem _ member)
      simp [takeDigits, Decimal.digit?_of_isDigit (valid digit List.mem_cons_self), following]

theorem fixed_padded {places value : Nat} (rest : List Char) (positive : 0 < places)
    (fits : value < 10 ^ places) :
    fixed places ((padded places value).toList ++ rest) = some (value, rest) := by
  have count := Decimal.length_padded positive fits
  have taken : digits places places ((padded places value).toList ++ rest) =
      some ((padded places value).toList.map digitValue, rest) := by
    simp [digits, takeDigits_of_count rest count fun _ => Decimal.isDigit_of_mem_padded, count]
  rw [fixed, bind_of_read taken, Decimal.ofDigits_padded]
  rfl

/-- Milliseconds behind a point are read as that many millions of nanoseconds. -/
theorem fraction_milliseconds {value : Nat} {stop : Char} (rest : List Char)
    (fits : value < 10 ^ 3) (ends : Decimal.digit? stop = none) :
    fraction ('.' :: ((padded 3 value).toList ++ stop :: rest)) =
      some (value * 1000000, stop :: rest) := by
  have count := Decimal.length_padded (by decide) fits
  have room : (padded 3 value).toList.length <
      ((padded 3 value).toList ++ stop :: rest).length := by
    simp
  have taken : allDigits ((padded 3 value).toList ++ stop :: rest) =
      some ((padded 3 value).toList.map digitValue, stop :: rest) := by
    rw [allDigits, digits, takeDigits_of_end rest room
      (fun _ => Decimal.isDigit_of_mem_padded) ends]
    simp [count]
  have filled : ((padded 3 value).toList.map digitValue ++ List.replicate 9 0).take 9 =
      (padded 3 value).toList.map digitValue ++ List.replicate 6 0 := by
    rw [List.take_append]
    simp [count, List.take_of_length_le]
  have millions : (10 : Nat) ^ 6 = 1000000 := rfl
  simp only [fraction, taken, filled, Option.bind_eq_bind, Option.bind_some]
  rw [Decimal.ofDigits_append_zeros, Decimal.ofDigits_padded, millions]

theorem zone_universal (rest : List Char) : zone ('Z' :: rest) = some (0, rest) :=
  bind_of_read (expect_of_accepted rest rfl)

end SqlMapper.Calendar.Reader
