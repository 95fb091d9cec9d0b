import SqlMapper.Proofs.Text.Capitals

namespace SqlMapper.OrderTerm

/-! Direction words.

A word spells a direction in letters of either case, and the long s counts as one.  It
is taken for that direction only if its letters are plain.
-/

variable {word : List Char} {direction : Direction}

/-- The word is the keyword of the direction, in letters of either case. -/
def Spells (word : List Char) (direction : Direction) : Prop :=
  Text.upper (String.ofList word) = direction.keyword

def IsPlain (word : List Char) : Prop :=
  ∀ char ∈ word, char.toNat < 0x80

instance (word : List Char) : Decidable (IsPlain word) :=
  List.decidableBAll _ word

theorem spells_iff : Spells word direction ↔
    word.map foldLetter = direction.keyword.toList.map Char.toLower := by
  have letters : ∀ char ∈ direction.keyword.toList, Text.IsCapital char := by
    have checked : direction.keyword.toList.all (Text.IsCapital ·) = true := by
      cases direction <;> decide
    simpa using checked
  have apart : direction.keyword.toList.IsChain fun first second => ¬ Text.Paired first second := by
    cases direction <;> decide +kernel
  rw [← Text.upper_eq_iff letters apart, Spells, Text.upper, String.toList_ofList]
  constructor
  · intro spelled
    rw [← spelled, String.toList_ofList]
  · intro spelled
    rw [spelled, String.ofList_toList]

theorem isDirectionWord_iff : isDirectionWord word = true ↔ ∃ direction, Spells word direction := by
  simp only [isDirectionWord, Bool.or_eq_true, beq_iff_eq, spells_iff]
  constructor
  · rintro (ascending | descending)
    · exact ⟨.ascending, ascending⟩
    · exact ⟨.descending, descending⟩
  · rintro ⟨_ | _, spelled⟩
    · exact .inl spelled
    · exact .inr spelled

theorem Spells.unique {other : Direction} (spelled : Spells word direction)
    (again : Spells word other) : direction = other := by
  have same : direction.keyword = other.keyword := spelled.symm.trans again
  cases direction <;> cases other <;> first | rfl | exact absurd same (by decide)

theorem foldLetter_of_plain {char : Char} (plain : char.toNat < 0x80) :
    foldLetter char = char.toLower :=
  if_neg (by omega)

theorem plain_of_toLower {char : Char} (plain : char.toLower.toNat < 0x80) :
    char.toNat < 0x80 := by
  rcases Text.toLower_cases char with kept | ⟨_, high, _⟩
  · rwa [kept] at plain
  · omega

theorem plain_keyword (direction : Direction) :
    IsPlain (direction.keyword.toList.map Char.toLower) := by
  cases direction <;> decide

theorem ofWord?_eq_some_iff :
    Direction.ofWord? (String.ofList word) = some direction ↔
      word.map Char.toLower = direction.keyword.toList.map Char.toLower := by
  have compared (text : String) : Text.sameName (String.ofList word) text = true ↔
      word.map Char.toLower = text.toList.map Char.toLower := by
    rw [Text.sameName_iff, Text.lowerAscii, Text.lowerAscii, String.toList_ofList,
      String.ofList_inj]
  have ascending : "asc".toList.map Char.toLower =
      Direction.ascending.keyword.toList.map Char.toLower := by decide
  have descending : "desc".toList.map Char.toLower =
      Direction.descending.keyword.toList.map Char.toLower := by decide
  have different : Direction.ascending.keyword.toList.map Char.toLower ≠
      Direction.descending.keyword.toList.map Char.toLower := by decide
  unfold Direction.ofWord?
  simp only [compared, ascending, descending]
  cases direction <;> grind

/-- A word is taken for a direction if it spells one in plain letters. -/
theorem ofWord?_eq_some_iff_spells :
    Direction.ofWord? (String.ofList word) = some direction ↔
      Spells word direction ∧ IsPlain word := by
  rw [ofWord?_eq_some_iff, spells_iff]
  have folded (plain : IsPlain word) : word.map foldLetter = word.map Char.toLower :=
    List.map_congr_left fun char member => foldLetter_of_plain (plain char member)
  constructor
  · intro lowered
    have plain : IsPlain word := by
      intro char member
      have letter : char.toLower ∈ direction.keyword.toList.map Char.toLower :=
        lowered ▸ List.mem_map_of_mem member
      exact plain_of_toLower (plain_keyword direction _ letter)
    exact ⟨(folded plain).trans lowered, plain⟩
  · rintro ⟨spelled, plain⟩
    exact (folded plain).symm.trans spelled

theorem getLast?_of_spells (spelled : Spells word direction) :
    word.getLast?.map foldLetter = some 'c' := by
  rw [← List.getLast?_map, spells_iff.mp spelled]
  cases direction <;> rfl

theorem spells_keyword (direction : Direction) : Spells direction.keyword.toList direction := by
  rw [spells_iff]
  cases direction <;> decide

end SqlMapper.OrderTerm
