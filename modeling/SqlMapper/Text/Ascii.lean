/-!
Comparison of names without regard to the case of the letters `A` to `Z`.

The database folds the case of identifiers, and the program compares them the same way: two names
are the same exactly when their ASCII letters agree after lowering and all else agrees as it is.
-/

namespace SqlMapper.Text

def lowerAscii (text : String) : String :=
  String.ofList (text.toList.map Char.toLower)

/-- Whether two texts are equal once the case of ASCII letters is ignored. -/
def sameName (left right : String) : Bool :=
  lowerAscii left == lowerAscii right

theorem sameName_iff {left right : String} :
    sameName left right = true ↔ lowerAscii left = lowerAscii right := by
  simp [sameName]

theorem sameName_refl (text : String) : sameName text text = true := by
  simp [sameName]

theorem sameName_comm (left right : String) : sameName left right = sameName right left := by
  simp only [sameName, Bool.beq_comm]

end SqlMapper.Text
