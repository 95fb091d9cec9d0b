import Mathlib.Algebra.Group.Nat.Defs
import SqlMapper.Decimal.Integer

namespace SqlMapper.Decimal

/-! Numbers filled with zeros.

`padded` writes exactly the places asked for as long as the number fits them,
and the digits that it writes have the value of the number.
-/

def digitValue (char : Char) : Nat :=
  char.toNat - '0'.toNat

theorem digit?_of_isDigit {char : Char} (digit : char.isDigit = true) :
    digit? char = some (digitValue char) := by
  obtain ⟨lower, upper⟩ := Char.isDigit_iff_toNat.mp digit
  exact if_pos ⟨lower, upper⟩

theorem ofDigits_map_digitValue (chars : List Char) :
    ofDigits (chars.map digitValue) = Nat.ofDigitChars 10 chars 0 := by
  rw [ofDigits, List.foldl_map, Nat.ofDigitChars_eq_foldl]
  rfl

theorem mapM_digit? {chars : List Char} (digits : ∀ char ∈ chars, char.isDigit = true) :
    chars.mapM digit? = some (chars.map digitValue) := by
  induction chars with
  | nil => rfl
  | cons char rest ih =>
      obtain ⟨here, later⟩ := List.forall_mem_cons.mp digits
      rw [List.mapM_cons, digit?_of_isDigit here, ih later]
      rfl

/-- A number is read back from its digits. -/
theorem readNat?_toDigits (value : Nat) : readNat? (Nat.toDigits 10 value) = some value := by
  have digits : ∀ char ∈ Nat.toDigits 10 value, char.isDigit = true := fun char member =>
    Nat.isDigit_of_mem_toDigits (by decide) (by decide) member
  have present : (Nat.toDigits 10 value).isEmpty = false :=
    List.isEmpty_eq_false_iff.mpr Nat.toDigits_ne_nil
  rw [readNat?, present, mapM_digit? digits]
  simp [ofDigits_map_digitValue, Nat.ofDigitChars_ten_toDigits]

theorem ofDigits_append_zeros (digits : List Nat) (count : Nat) :
    ofDigits (digits ++ List.replicate count 0) = ofDigits digits * 10 ^ count := by
  induction count with
  | zero => simp
  | succ count ih =>
      have last : ofDigits (digits ++ List.replicate (count + 1) 0) =
          10 * ofDigits (digits ++ List.replicate count 0) := by
        rw [List.replicate_succ', ← List.append_assoc, ofDigits, List.foldl_append]
        rfl
      rw [last, ih, Nat.pow_succ, Nat.mul_left_comm, Nat.mul_comm 10]

theorem toList_padded (places value : Nat) :
    (padded places value).toList =
      List.replicate (places - (Nat.toDigits 10 value).length) '0' ++ Nat.toDigits 10 value := by
  simp [padded]

theorem isDigit_of_mem_padded {places value : Nat} {char : Char}
    (member : char ∈ (padded places value).toList) : char.isDigit = true := by
  rw [toList_padded] at member
  rcases List.mem_append.mp member with zero | digit
  · rw [List.eq_of_mem_replicate zero]
    rfl
  · exact Nat.isDigit_of_mem_toDigits (by decide) (by decide) digit

theorem length_padded {places value : Nat} (positive : 0 < places) (fits : value < 10 ^ places) :
    (padded places value).toList.length = places := by
  have short := (Nat.length_toDigits_le_iff (b := 10) (by decide) positive).mpr fits
  rw [toList_padded, List.length_append, List.length_replicate]
  omega

theorem ofDigits_padded (places value : Nat) :
    ofDigits ((padded places value).toList.map digitValue) = value := by
  rw [ofDigits_map_digitValue, toList_padded, Nat.ofDigitChars_append,
    Nat.ofDigitChars_replicate_zero, Nat.mul_zero, Nat.ofDigitChars_ten_toDigits]

end SqlMapper.Decimal
