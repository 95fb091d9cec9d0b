import SqlMapper.Model.Field
import SqlMapper.Text.Blank
import SqlMapper.Text.Case

/-!
The column types that fields are stored in.

Two spellings of a type are the same if they agree once brackets and blanks are dropped and letters
are raised to upper case.
-/

namespace SqlMapper.Schema

inductive ColumnType where
  | varchar (length : UInt32)
  | text
  | int
  | datetime
  | bit
  | float
deriving DecidableEq, Repr

namespace ColumnType

def defaultLength : UInt32 := 255

/-- The type in which a field is stored. Documents are stored as bounded text. -/
def ofField (field : Field) : ColumnType :=
  match field.type with
  | .text => .text
  | .number => .int
  | .date => .datetime
  | .boolean => .bit
  | .point => .float
  | .string | .json | .array _ => .varchar (field.limit.getD defaultLength)

def render : ColumnType → String
  | .varchar length => "[varchar](" ++ toString length ++ ")"
  | .text => "[text]"
  | .int => "[int]"
  | .datetime => "[datetime]"
  | .bit => "[bit]"
  | .float => "[float]"

/-- The spelling under which types are compared. -/
def normalized (text : String) : String :=
  Text.upper (String.ofList (text.toList.filter fun char =>
    char != '[' && char != ']' && !Text.isBlank char))

def spelledBy (type : ColumnType) (text : String) : Bool :=
  normalized type.render == normalized text

end ColumnType

def columnSettings (field : Field) : String :=
  (ColumnType.ofField field).render ++ if field.nullable then " NULL" else " NOT NULL"

end SqlMapper.Schema
