import SqlMapper.Decimal.Notation

namespace SqlMapper.Decimal

/-! Equality of floating-point numbers.

A finite number is determined by its parts.  Two of them are equal exactly if they are
the same or both zero, and what is written for a zero tells its sign.
-/

open Float.Model (Format UnpackedFloat)
open Float.Model.UnpackedFloat (Sign unpackMantissa unpackExponent unpackSign)

variable {value left right : Float}

namespace Binary

def sign (number : Binary) : Sign :=
  if number.negative then .negative else .positive

theorem ext_sign {left right : Binary} (sign : left.sign = right.sign)
    (significand : left.significand = right.significand)
    (exponent : left.exponent = right.exponent) : left = right := by
  obtain ⟨leftNegative, _, _⟩ := left
  obtain ⟨rightNegative, _, _⟩ := right
  cases significand
  cases exponent
  cases leftNegative <;> cases rightNegative <;> first | rfl | cases sign

/-! Parts and bits. -/

section

variable (bits : BitVec Format.binary64.numBits)

theorem toNat_unpackMantissa :
    (unpackMantissa bits).toNat = bits.toNat % 0x10000000000000 := by
  simp [unpackMantissa, BitVec.extractLsb_toNat]

theorem toNat_unpackExponent :
    (unpackExponent bits).toNat = bits.toNat / 0x10000000000000 % 0x800 := by
  simp [unpackExponent, BitVec.extractLsb_toNat, Nat.shiftRight_eq_div_pow]

theorem toNat_unpackSign : (unpackSign bits).toNat = bits.toNat / 0x8000000000000000 % 2 := by
  change ((bits.extractLsb 63 63).cast _).toNat = _
  simp [BitVec.extractLsb_toNat, Nat.shiftRight_eq_div_pow]

end

theorem ofBitVec_unpackSign (value : Float) :
    Sign.ofBitVec (@unpackSign .binary64 value.toBits.toBitVec) = (ofFloat value).sign := by
  have bound : value.toBits.toNat < 0x10000000000000000 := value.toBits.toNat_lt
  have plus : @unpackSign .binary64 value.toBits.toBitVec = 0#1 ↔
      ¬ value.toBits.toNat / 0x8000000000000000 = 1 := by
    rw [← BitVec.toNat_inj, toNat_unpackSign, UInt64.toNat_toBitVec]
    change _ = 0 ↔ _
    omega
  by_cases negative : value.toBits.toNat / 0x8000000000000000 = 1 <;>
    simp [Sign.ofBitVec, sign, ofFloat, plus, negative]

theorem parts_of_low (low : @unpackExponent .binary64 value.toBits.toBitVec = 0#11) :
    (ofFloat value).significand = (@unpackMantissa .binary64 value.toBits.toBitVec).toNat ∧
      (ofFloat value).exponent = -1074 := by
  have biased := toNat_unpackExponent value.toBits.toBitVec
  rw [low, UInt64.toNat_toBitVec] at biased
  rw [toNat_unpackMantissa, UInt64.toNat_toBitVec]
  simp only [ofFloat, ← biased]
  exact ⟨rfl, rfl⟩

theorem parts_of_normal (normal : @unpackExponent .binary64 value.toBits.toBitVec ≠ 0#11) :
    (ofFloat value).significand =
        (1#1 ++ @unpackMantissa .binary64 value.toBits.toBitVec).toNat ∧
      (ofFloat value).exponent =
        (@unpackExponent .binary64 value.toBits.toBitVec).toNat - 1075 := by
  have biased := toNat_unpackExponent value.toBits.toBitVec
  have fraction := toNat_unpackMantissa value.toBits.toBitVec
  have positive : (@unpackExponent .binary64 value.toBits.toBitVec).toNat ≠ 0 := fun zero =>
    normal (BitVec.eq_of_toNat_eq zero)
  rw [UInt64.toNat_toBitVec] at biased fraction
  simp only [ofFloat, ← biased, ← fraction, if_neg positive]
  refine ⟨?_, by omega⟩
  rw [BitVec.toNat_append,
    ← Nat.shiftLeft_add_eq_or_of_lt (@unpackMantissa .binary64 value.toBits.toBitVec).isLt]
  rfl

theorem exists_finite_eq {sign : Sign} {significand other : Nat} {exponent power : Int}
    (positive : 0 < significand) (same : other = significand) (scaled : power = exponent) :
    ∃ proper, UnpackedFloat.finite sign significand exponent positive =
      .finite sign other power proper := by
  subst same scaled
  exact ⟨positive, rfl⟩

/-- A finite number is a signed zero, or it is made of its parts. -/
theorem unpack_eq (finite : value.isFinite = true) :
    ((ofFloat value).significand = 0 ∧ value.toModel.unpack = .zero (ofFloat value).sign) ∨
      ∃ positive, value.toModel.unpack =
        .finite (ofFloat value).sign (ofFloat value).significand (ofFloat value).exponent
          positive := by
  change (UnpackedFloat.unpack .binary64 value.toBits.toBitVec).isFinite = true at finite
  change _ ∧ UnpackedFloat.unpack .binary64 value.toBits.toBitVec = _ ∨
    ∃ _, UnpackedFloat.unpack .binary64 value.toBits.toBitVec = _
  rw [← ofBitVec_unpackSign]
  unfold UnpackedFloat.unpack at finite ⊢
  dsimp only at finite ⊢
  -- The highest exponent is kept for what is infinite or no number.
  by_cases special : @unpackExponent .binary64 value.toBits.toBitVec = -1#11
  · rw [if_pos special] at finite
    by_cases empty : @unpackMantissa .binary64 value.toBits.toBitVec = 0#52
    · rw [if_pos empty] at finite
      cases finite
    · rw [if_neg empty] at finite
      cases finite
  rw [if_neg special]
  by_cases low : @unpackExponent .binary64 value.toBits.toBitVec = 0#11
  · obtain ⟨significand, exponent⟩ := parts_of_low low
    rw [if_pos low]
    by_cases empty : @unpackMantissa .binary64 value.toBits.toBitVec = 0#52
    · rw [dif_pos empty]
      rw [empty] at significand
      exact .inl ⟨significand, rfl⟩
    · rw [dif_neg empty, low]
      exact .inr (exists_finite_eq _ significand exponent)
  · obtain ⟨significand, exponent⟩ := parts_of_normal low
    rw [if_neg low]
    exact .inr (exists_finite_eq _ significand exponent)

theorem toNat_toBits (value : Float) :
    value.toBits.toNat = (if (ofFloat value).negative then 0x8000000000000000 else 0) +
      ((ofFloat value).significand +
        ((ofFloat value).exponent + 1074).toNat * 0x10000000000000) := by
  have bound : value.toBits.toNat < 0x10000000000000000 := value.toBits.toNat_lt
  simp only [ofFloat, beq_iff_eq]
  split <;> split <;> omega

theorem ofFloat_injective : Function.Injective ofFloat := by
  intro left right same
  have bits : left.toBits.toNat = right.toBits.toNat := by
    rw [toNat_toBits, toNat_toBits, same]
  obtain ⟨⟨leftBits, _⟩⟩ := left
  obtain ⟨⟨rightBits, _⟩⟩ := right
  cases UInt64.toNat_inj.mp bits
  rfl

/-! Equality. -/

theorem compare_finite_eq_iff {leftSign rightSign : Sign} {leftSignificand rightSignificand : Nat}
    {leftExponent rightExponent : Int} (leftPositive : 0 < leftSignificand)
    (rightPositive : 0 < rightSignificand) :
    (UnpackedFloat.finite leftSign leftSignificand leftExponent leftPositive).compare
        (.finite rightSign rightSignificand rightExponent rightPositive) = some .eq ↔
      leftSign = rightSign ∧ leftSignificand = rightSignificand ∧
        leftExponent = rightExponent := by
  cases leftSign <;> cases rightSign
  · change some ((compare leftExponent rightExponent).then _).swap = some .eq ↔ _
    simp [Ordering.then_eq_eq, and_comm]
  · exact iff_of_false nofun nofun
  · exact iff_of_false nofun nofun
  · change some ((compare leftExponent rightExponent).then _) = some .eq ↔ _
    simp [Ordering.then_eq_eq, and_comm]

theorem compare_zero_finite_ne {leftSign rightSign : Sign} {significand : Nat} {exponent : Int}
    (positive : 0 < significand) :
    (UnpackedFloat.zero leftSign).compare
      (.finite rightSign significand exponent positive) ≠ some .eq := by
  cases rightSign <;> nofun

theorem compare_finite_zero_ne {leftSign rightSign : Sign} {significand : Nat} {exponent : Int}
    (positive : 0 < significand) :
    (UnpackedFloat.finite leftSign significand exponent positive).compare
      (.zero rightSign) ≠ some .eq := by
  cases leftSign <;> nofun

/-- Finite numbers are equal exactly if they are the same or both zero. -/
theorem beq_iff (leftFinite : left.isFinite = true) (rightFinite : right.isFinite = true) :
    (left == right) = true ↔
      left = right ∨ (ofFloat left).significand = 0 ∧ (ofFloat right).significand = 0 := by
  change (left.toModel.unpack.compare right.toModel.unpack == some .eq) = true ↔ _
  rw [beq_iff_eq]
  rcases unpack_eq leftFinite with ⟨leftZero, leftUnpacked⟩ | ⟨leftPositive, leftUnpacked⟩ <;>
  rcases unpack_eq rightFinite with ⟨rightZero, rightUnpacked⟩ | ⟨rightPositive, rightUnpacked⟩ <;>
  rw [leftUnpacked, rightUnpacked]
  · exact iff_of_true rfl (.inr ⟨leftZero, rightZero⟩)
  · refine iff_of_false (compare_zero_finite_ne _) ?_
    rintro (rfl | ⟨_, zero⟩) <;> omega
  · refine iff_of_false (compare_finite_zero_ne _) ?_
    rintro (rfl | ⟨zero, _⟩) <;> omega
  · rw [compare_finite_eq_iff]
    constructor
    · rintro ⟨sign, significand, exponent⟩
      exact .inl (ofFloat_injective (ext_sign sign significand exponent))
    · rintro (rfl | ⟨zero, _⟩)
      · exact ⟨rfl, rfl, rfl⟩
      · omega

theorem exponent_of_zero (zero : (ofFloat value).significand = 0) :
    (ofFloat value).exponent = -1074 := by
  simp only [ofFloat] at zero ⊢
  split at zero <;> omega

/-- There is one zero of each sign. -/
theorem eq_of_zeros (leftZero : (ofFloat left).significand = 0)
    (rightZero : (ofFloat right).significand = 0)
    (negative : (ofFloat left).negative = (ofFloat right).negative) : left = right := by
  refine ofFloat_injective (ext_sign (by rw [sign, sign, negative]) ?_ ?_)
  · rw [leftZero, rightZero]
  · rw [exponent_of_zero leftZero, exponent_of_zero rightZero]

end Binary

open Binary (ofFloat)

theorem Notation.toList_render_zero (form : Notation) (zero : (ofFloat value).significand = 0) :
    (form.render value).toList =
      if (ofFloat value).negative then ['-', '0', '.', '0'] else ['0', '.', '0'] := by
  rw [render, String.toList_ofList]
  simp only [zero, if_true]

/-- Equal numbers that are written alike are the same, whatever comes behind them. -/
theorem Notation.eq_of_render (form : Notation) (leftFinite : left.isFinite = true)
    (rightFinite : right.isFinite = true) (equal : (left == right) = true)
    {after later : List Char}
    (written : (form.render left).toList ++ after = (form.render right).toList ++ later) :
    left = right ∧ after = later := by
  have same : left = right := by
    rcases (Binary.beq_iff leftFinite rightFinite).mp equal with same | ⟨leftZero, rightZero⟩
    · exact same
    · -- Zeros of different sign differ in the first character.
      refine Binary.eq_of_zeros leftZero rightZero ?_
      rw [form.toList_render_zero leftZero, form.toList_render_zero rightZero] at written
      cases minus : (ofFloat left).negative <;> cases other : (ofFloat right).negative <;>
        simp [minus, other] at written ⊢
  subst same
  exact ⟨rfl, List.append_cancel_left written⟩

end SqlMapper.Decimal
