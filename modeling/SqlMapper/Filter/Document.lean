import SqlMapper.Entries
import SqlMapper.Filter.Basic
import SqlMapper.Model.Basic

/-!
Filter documents.

A filter is written as a JSON object with one member for each condition. A member whose value is an
object with a single key applies the operator of that name; any other value asks for equality. For
fields that store documents an object is taken as an operator only if the operator exists.
-/

namespace SqlMapper

def Json.textUnder? (key : String) (members : List (String × Json)) : Option String :=
  match entry? key members with
  | some (.text value) => some value
  | _ => none

def Filter.describedField (members : List (String × Json)) : Except CompileError String :=
  match Json.textUnder? "field" members with
  | some field => .ok field
  | none => .error (.invalidOperand .fieldMissing)

/-- The source that a greatest-value description names, under either of two keys. -/
def Filter.describedSource (members : List (String × Json)) : Except CompileError String :=
  match (Json.textUnder? "from" members).or (Json.textUnder? "fromTable" members) with
  | some source => .ok source
  | none => .error (.invalidOperand .sourceMissing)

mutual

def Expr.ofOperand : Operator → Json → Except CompileError Expr
  | .compare comparison, operand => .ok (.compare comparison (Value.ofJson operand))
  | .oneOf, operand => .ok (.oneOf (Value.ofJson operand))
  | .noneOf, operand => .ok (.noneOf (Value.ofJson operand))
  | .between, .array [low, high] => .ok (.between (Value.ofJson low) (Value.ofJson high))
  | .between, _ => .error (.invalidOperand .boundsExpected)
  | .greatest, .object members => do
    let field ← Filter.describedField members
    let source ← Filter.describedSource members
    let filter ← Filter.nested members
    return .greatest field source filter
  | .greatest, _ => .error (.invalidOperand .descriptionExpected)

def Filter.nested : List (String × Json) → Except CompileError (Option Filter)
  | [] => .ok none
  | (key, document) :: rest =>
    if key = "where" then
      match document with
      | .null => .ok none
      | document => (Filter.ofJson document).map some
    else Filter.nested rest

def Filter.ofJson : Json → Except CompileError Filter
  | .null => .ok []
  | .object members => Filter.ofMembers members
  | document => .error (.invalidOperand (.filterExpected document))

def Filter.ofMembers : List (String × Json) → Except CompileError Filter
  | [] => .ok []
  | (field, document) :: rest => do
    let expr ← Expr.ofJson document
    let filter ← Filter.ofMembers rest
    return (field, expr) :: filter

def Expr.ofJson : Json → Except CompileError Expr
  | .object [(name, operand)] =>
    match Operator.ofName? name with
    | some operator => Expr.ofOperand operator operand
    | none => .error (.unsupportedOperator name)
  | document => .ok (.eq (Value.ofJson document))

end

def Expr.ofDocument : Json → Except CompileError Expr
  | .object [(name, operand)] =>
    match Operator.ofName? name with
    | some operator => Expr.ofOperand operator operand
    | none => .ok (.eq (.json (.object [(name, operand)])))
  | document => .ok (.eq (Value.ofJson document))

/-- Reads a filter document for a model, whose fields that store documents are compared with whole
objects. -/
def Filter.ofJsonFor (model : Model) : Json → Except CompileError Filter
  | .null => .ok []
  | .object members => members.mapM fun (field, document) => do
    let serialized := (model.field? field).any (·.type.isSerialized)
    let expr ← if serialized then Expr.ofDocument document else Expr.ofJson document
    return (field, expr)
  | document => .error (.invalidOperand (.filterExpected document))

end SqlMapper
