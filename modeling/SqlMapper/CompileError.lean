import SqlMapper.Json.Printer

/-!
Why an input cannot be turned into a statement.

Each cause is a constructor that carries what the report needs. `CompileError.message` is the
wording.
-/

namespace SqlMapper

inductive ModelFault where
  | severalPrimaryKeys
  | indexedPrimaryKey (field : String)
  | emptyIndex (index : String)
  | unknownIndexField (index field : String)
deriving DecidableEq, Repr

def ModelFault.message : ModelFault → String
  | .severalPrimaryKeys => "more than one primary key field"
  | .indexedPrimaryKey field => "primary key field '" ++ field ++ "' cannot carry an index"
  | .emptyIndex index => "index '" ++ index ++ "' has no columns"
  | .unknownIndexField index field =>
    "index '" ++ index ++ "' references unknown field '" ++ field ++ "'"

inductive OperandFault where
  | boundsExpected
  | descriptionExpected
  | fieldMissing
  | sourceMissing
  | filterExpected (found : Json)
  | recordExpected (found : Json)

namespace OperandFault

def subject : OperandFault → String
  | .boundsExpected => "between"
  | .descriptionExpected | .fieldMissing | .sourceMissing => "max"
  | .filterExpected _ => "where"
  | .recordExpected _ => "record"

def message : OperandFault → String
  | .boundsExpected => "expected [low, high]"
  | .descriptionExpected => "expected \x7bfield, from, where?\x7d"
  | .fieldMissing => "missing 'field'"
  | .sourceMissing => "missing 'from'"
  | .filterExpected found | .recordExpected found => "expected an object, got " ++ found.compact

end OperandFault

inductive ParametersFault where
  | arrayExpected (found : Json)
  | malformedParameter

inductive CompileError where
  | unknownModel (name : String)
  | unsupportedOperator (name : String)
  | invalidOperand (fault : OperandFault)
  | invalidDate (field : String) (value : Json)
  | invalidParameters (fault : ParametersFault)
  | invalidOrder (term : String)
  | invalidModel (model : String) (fault : ModelFault)

def CompileError.message : CompileError → String
  | .unknownModel name => "unknown model: " ++ name
  | .unsupportedOperator name => "unsupported filter operator '" ++ name ++ "'"
  | .invalidOperand fault =>
    "invalid operand for '" ++ fault.subject ++ "': " ++ fault.message
  | .invalidDate field value =>
    "invalid date value for field '" ++ field ++ "': " ++ value.compact
  | .invalidParameters (.arrayExpected found) =>
    "invalid parameters: expected an array of parameters, got " ++ found.compact
  | .invalidParameters .malformedParameter =>
    "invalid parameters: expected a name and a value"
  | .invalidOrder term => "invalid order specification '" ++ term ++ "'"
  | .invalidModel model fault => "invalid model '" ++ model ++ "': " ++ fault.message

end SqlMapper
