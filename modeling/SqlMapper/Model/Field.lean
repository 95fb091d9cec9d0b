import SqlMapper.Model.Index

/-!
Fields of a model.

The type of a field says what callers hand over and get back, not how a column stores it.
-/

namespace SqlMapper

inductive FieldType where
  | string
  | text
  | number
  | date
  | boolean
  | point
  | json
  | array (item : FieldType)
deriving DecidableEq, Repr

namespace FieldType

def isSerialized : FieldType → Bool
  | .json | .array _ => true
  | _ => false

def render : FieldType → String
  | .string => "String"
  | .text => "Text"
  | .number => "Number"
  | .date => "Date"
  | .boolean => "Boolean"
  | .point => "Point"
  | .json => "JSON"
  | .array item => "[" ++ item.render ++ "]"

end FieldType

structure FieldIndex where
  unique : Bool := false
  name : Option String := none
  kind : IndexKind := .nonclustered
  direction : Direction := .ascending
deriving DecidableEq, Repr

/-- A declared field. `column` names the column of a primary key where it differs. -/
structure Field where
  name : String
  type : FieldType
  nullable : Bool := true
  limit : Option UInt32 := none
  index : Option FieldIndex := none
  primaryKey : Bool := false
  column : Option String := none
deriving DecidableEq, Repr

def Field.fullIndex? (field : Field) : Option Index :=
  field.index.map fun index =>
    { columns := [{ field := field.name, direction := index.direction }]
      unique := index.unique
      name := index.name
      kind := index.kind }

end SqlMapper
