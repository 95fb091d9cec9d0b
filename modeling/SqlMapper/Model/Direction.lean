import SqlMapper.CompileError
import SqlMapper.Text.Ascii

/-!
Sort directions.
-/

namespace SqlMapper

inductive Direction where
  | ascending
  | descending
deriving DecidableEq, Repr, Inhabited

namespace Direction

def keyword : Direction → String
  | .ascending => "ASC"
  | .descending => "DESC"

def ofWord? (word : String) : Option Direction :=
  if Text.sameName word "asc" then some .ascending
  else if Text.sameName word "desc" then some .descending
  else none

def ofWord (word : String) : Except CompileError Direction :=
  match ofWord? word with
  | some direction => .ok direction
  | none => .error (.invalidOrder word)

end Direction

end SqlMapper
