import Mathlib.Tactic.Ring
import SqlMapper.Proofs.Decimal.Padded

namespace SqlMapper.Decimal

/-! Numbers of one width in order.

Numbers that are filled with zeros to the same places stand in the order of texts as they
do in the order of numbers, and in front of other texts the first difference decides.
-/

/-- Behind texts of one length the order goes by those texts first. -/
theorem append_lt_append_iff {left right : List Char} (same : left.length = right.length)
    {after later : List Char} :
    left ++ after < right ++ later ↔ left < right ∨ left = right ∧ after < later := by
  induction left generalizing right with
  | nil =>
      rw [List.length_nil] at same
      rw [List.eq_nil_of_length_eq_zero same.symm]
      simp
  | cons first rest ih =>
      obtain ⟨char, others, rfl⟩ := List.exists_cons_of_length_eq_add_one same.symm
      rw [List.length_cons, List.length_cons, Nat.add_right_cancel_iff] at same
      simp only [List.cons_append, List.cons_lt_cons_iff, ih same, List.cons.injEq, and_or_left,
        or_assoc, and_assoc]

theorem foldl_digits (start : Nat) (digits : List Nat) :
    digits.foldl (fun total digit => 10 * total + digit) start =
      start * 10 ^ digits.length + ofDigits digits := by
  induction digits generalizing start with
  | nil => simp [ofDigits]
  | cons digit rest ih =>
      rw [ofDigits, List.foldl_cons, List.foldl_cons, ih, ih, List.length_cons, Nat.pow_succ]
      ring

theorem ofDigits_cons (digit : Nat) (rest : List Nat) :
    ofDigits (digit :: rest) = digit * 10 ^ rest.length + ofDigits rest := by
  rw [ofDigits, List.foldl_cons, foldl_digits, Nat.mul_zero, Nat.zero_add]

theorem ofDigits_lt {digits : List Nat} (each : ∀ digit ∈ digits, digit < 10) :
    ofDigits digits < 10 ^ digits.length := by
  induction digits with
  | nil => simp [ofDigits]
  | cons digit rest ih =>
      obtain ⟨small, others⟩ := List.forall_mem_cons.mp each
      have below := ih others
      have up := Nat.mul_le_mul_right (10 ^ rest.length) (Nat.succ_le_of_lt small)
      rw [ofDigits_cons, List.length_cons, Nat.pow_succ]
      rw [Nat.succ_mul] at up
      omega

/-- Of two numbers in places, the leading one decides. -/
theorem mul_add_lt_iff {scale first second low high : Nat} (lower : low < scale)
    (upper : high < scale) :
    first * scale + low < second * scale + high ↔
      first < second ∨ first = second ∧ low < high := by
  rcases Nat.lt_trichotomy first second with less | rfl | more
  · have up := Nat.mul_le_mul_right scale (Nat.succ_le_of_lt less)
    rw [Nat.succ_mul] at up
    omega
  · omega
  · have up := Nat.mul_le_mul_right scale (Nat.succ_le_of_lt more)
    rw [Nat.succ_mul] at up
    omega

theorem digitValue_lt {char : Char} (digit : char.isDigit = true) : digitValue char < 10 := by
  obtain ⟨_, upper⟩ := Char.isDigit_iff_toNat.mp digit
  have zero : '0'.toNat = 48 := rfl
  have nine : '9'.toNat = 57 := rfl
  rw [digitValue]
  omega

theorem digits_lt_iff {left right : List Char} (same : left.length = right.length)
    (leftDigits : ∀ char ∈ left, char.isDigit = true)
    (rightDigits : ∀ char ∈ right, char.isDigit = true) :
    left < right ↔ ofDigits (left.map digitValue) < ofDigits (right.map digitValue) := by
  induction left generalizing right with
  | nil =>
      rw [List.length_nil] at same
      rw [List.eq_nil_of_length_eq_zero same.symm]
      simp
  | cons first rest ih =>
      obtain ⟨char, others, rfl⟩ := List.exists_cons_of_length_eq_add_one same.symm
      rw [List.length_cons, List.length_cons, Nat.add_right_cancel_iff] at same
      obtain ⟨firstDigit, restDigits⟩ := List.forall_mem_cons.mp leftDigits
      obtain ⟨charDigit, othersDigits⟩ := List.forall_mem_cons.mp rightDigits
      have small (chars : List Char) (digits : ∀ char ∈ chars, char.isDigit = true) :
          ofDigits (chars.map digitValue) < 10 ^ chars.length := by
        have bound := @ofDigits_lt (chars.map digitValue)
        rw [List.forall_mem_map, List.length_map] at bound
        exact bound fun char member => digitValue_lt (digits char member)
      have low := small rest restDigits
      have high := small others othersDigits
      obtain ⟨firstLow, _⟩ := Char.isDigit_iff_toNat.mp firstDigit
      obtain ⟨charLow, _⟩ := Char.isDigit_iff_toNat.mp charDigit
      have zero : '0'.toNat = 48 := rfl
      have order : first < char ↔ digitValue first < digitValue char := by
        rw [Char.lt_def, UInt32.lt_iff_toNat_lt, digitValue, digitValue]
        change first.toNat < char.toNat ↔ _
        omega
      have equal : first = char ↔ digitValue first = digitValue char := by
        rw [← Char.toNat_inj, digitValue, digitValue]
        omega
      rw [List.map_cons, List.map_cons, ofDigits_cons, ofDigits_cons, List.length_map,
        List.length_map, same, mul_add_lt_iff (same ▸ low) high, List.cons_lt_cons_iff,
        ih same restDigits othersDigits, order, equal]

theorem padded_lt_iff {places left right : Nat} (positive : 0 < places)
    (leftFits : left < 10 ^ places) (rightFits : right < 10 ^ places) {after later : List Char} :
    (padded places left).toList ++ after < (padded places right).toList ++ later ↔
      left < right ∨ left = right ∧ after < later := by
  have leftLength := length_padded positive leftFits
  have rightLength := length_padded positive rightFits
  have same := leftLength.trans rightLength.symm
  have order : (padded places left).toList < (padded places right).toList ↔ left < right := by
    rw [digits_lt_iff same (fun _ => isDigit_of_mem_padded) (fun _ => isDigit_of_mem_padded),
      ofDigits_padded, ofDigits_padded]
  have equal : (padded places left).toList = (padded places right).toList ↔ left = right := by
    refine ⟨fun alike => ?_, fun alike => by rw [alike]⟩
    rw [← ofDigits_padded places left, alike, ofDigits_padded]
  rw [append_lt_append_iff same, order, equal]

end SqlMapper.Decimal
