import SqlMapper.Text.Ascii
import SqlMapper.Text.Case

namespace SqlMapper.Text

/-! Names that differ in the case of ASCII letters.

Such names are the same for the database, and lowering by Unicode's mappings
makes them equal.
-/

variable {left middle right : String}

theorem sameName_symm (same : sameName left right = true) : sameName right left = true := by
  rw [sameName_comm]
  exact same

theorem sameName_trans (first : sameName left middle = true)
    (second : sameName middle right = true) : sameName left right = true := by
  rw [sameName_iff] at first second ⊢
  exact first.trans second

theorem sameName_congr_right (same : sameName middle right = true) (left : String) :
    sameName left middle = sameName left right := by
  rw [sameName_iff] at same
  rw [sameName, sameName, same]

theorem ne_of_apart (apart : sameName left right = false) : left ≠ right := by
  intro same
  rw [same, sameName_refl] at apart
  cases apart

theorem apart_symm (apart : sameName left right = false) : sameName right left = false := by
  rw [sameName_comm]
  exact apart

theorem apart_of_sameName (same : sameName left middle = true)
    (apart : sameName right middle = false) : sameName left right = false := by
  rw [← apart, sameName_comm left right]
  exact sameName_congr_right same right

theorem toLower_cases (char : Char) :
    char.toLower = char ∨
      65 ≤ char.toNat ∧ char.toNat ≤ 90 ∧ char.toLower.toNat = char.toNat + 32 := by
  unfold Char.toLower
  split
  · next capital =>
    right
    obtain ⟨first, last⟩ := capital
    have low : 65 ≤ char.val.toNat := first
    have high : char.val.toNat ≤ 90 := last
    refine ⟨low, high, ?_⟩
    show (char.val + 32).toNat = char.val.toNat + 32
    rw [UInt32.toNat_add]
    exact Nat.mod_eq_of_lt (by show char.val.toNat + 32 < 4294967296; omega)
  · exact .inl rfl

/-- A question about code points that capitals and their small letters answer alike. -/
theorem answer_toLower {α : Type} (answer : Nat → α)
    (alike : ∀ code, code < 91 → 65 ≤ code → answer (code + 32) = answer code) (char : Char) :
    answer char.toLower.toNat = answer char.toNat := by
  rcases toLower_cases char with same | ⟨low, high, moved⟩
  · rw [same]
  · rw [moved]
    exact alike char.toNat (by omega) low

theorem cased_toLower (char : Char) :
    CaseTable.within CaseTable.casedRanges char.toLower.toNat =
      CaseTable.within CaseTable.casedRanges char.toNat :=
  answer_toLower (CaseTable.within CaseTable.casedRanges) (by decide +kernel) char

theorem not_ignorable_letter {code : Nat}
    (letter : 65 ≤ code ∧ code ≤ 90 ∨ 97 ≤ code ∧ code ≤ 122) :
    CaseTable.within CaseTable.ignorableRanges code = false := by
  have aside : ∀ range ∈ CaseTable.ignorableRanges,
      range.2 < 65 ∨ 90 < range.1 ∧ range.2 < 97 ∨ 122 < range.1 := by
    decide +kernel
  refine List.any_eq_false.mpr fun range member => ?_
  have outside := aside range member
  simp only [Bool.and_eq_true, decide_eq_true_eq]
  omega

theorem ignorable_toLower (char : Char) :
    CaseTable.within CaseTable.ignorableRanges char.toLower.toNat =
      CaseTable.within CaseTable.ignorableRanges char.toNat := by
  refine answer_toLower (CaseTable.within CaseTable.ignorableRanges) (fun code last first => ?_) char
  rw [not_ignorable_letter (by omega), not_ignorable_letter (by omega)]

theorem sigma_toLower (char : Char) :
    (char.toLower.toNat == 0x3A3) = (char.toNat == 0x3A3) :=
  answer_toLower (· == 0x3A3) (by decide) char

theorem lowerOf_toLower (char : Char) : lowerOf char.toLower = lowerOf char := by
  rcases toLower_cases char with same | ⟨low, high, moved⟩
  · rw [same]
  · have again : char.toLower.toLower = char.toLower := by
      rcases toLower_cases char.toLower with same | ⟨_, high, _⟩
      · exact same
      · omega
    rw [lowerOf, if_pos (by omega), lowerOf, if_pos (by omega), again]

theorem meetsCased_map (chars : List Char) :
    meetsCased (chars.map Char.toLower) = meetsCased chars := by
  unfold meetsCased
  induction chars with
  | nil => rfl
  | cons char rest ih =>
      cases ignored : CaseTable.within CaseTable.ignorableRanges char.toNat with
      | true =>
          simp only [List.map_cons, List.dropWhile_cons, ignorable_toLower, ignored]
          exact ih
      | false =>
          simp only [List.map_cons, List.dropWhile_cons, ignorable_toLower, ignored]
          exact cased_toLower char

theorem lowerAfter_map (before rest : List Char) :
    lowerAfter (before.map Char.toLower) (rest.map Char.toLower) = lowerAfter before rest := by
  induction rest generalizing before with
  | nil => rfl
  | cons char rest ih =>
      -- Neighbours count only through `meetsCased`, which lowering keeps.
      have later := ih (char :: before)
      rw [List.map_cons] at later
      simp only [List.map_cons, lowerAfter, sigma_toLower, lowerOf_toLower, meetsCased_map, later]

theorem lower_lowerAscii (text : String) : lower (lowerAscii text) = lower text := by
  rw [lower, lower, lowerAscii, String.toList_ofList]
  exact congrArg String.ofList (lowerAfter_map [] text.toList)

theorem lower_eq_of_sameName (same : sameName left right = true) : lower left = lower right := by
  rw [sameName_iff] at same
  rw [← lower_lowerAscii left, ← lower_lowerAscii right, same]

end SqlMapper.Text
