import SqlMapper.Fragment

/-!
Conditions: filters whose values are bound.

`Condition.compileAll` binds the values of a filter from left to right. A comparison with null
becomes a test for null; a condition on an empty list is settled without looking at the column.
-/

namespace SqlMapper

inductive Condition where
  | isNull (column : String)
  | isNotNull (column : String)
  | equals (column : String) (operand : Operand)
  | compares (column : String) (comparison : Comparison) (operand : Operand)
  | between (column : String) (low high : Operand)
  | oneOf (column : String) (items : List Operand)
  | noneOf (column : String) (items : List Operand)
  | greatest (column aggregated source : String) (nested : List Condition)

namespace Condition

mutual

def compile (model : Model) (column : String) : Expr → Binding Condition
  | .eq value => do
    let operand ← Operand.compile (model.field? column) value
    return if operand = .null then .isNull column else .equals column operand
  | .compare comparison value => do
    let operand ← Operand.compile (model.field? column) value
    return if comparison = .different ∧ operand = .null then .isNotNull column
      else .compares column comparison operand
  | .between low high => do
    let low ← Operand.compile (model.field? column) low
    let high ← Operand.compile (model.field? column) high
    return .between column low high
  | .oneOf values => do
    return .oneOf column (← Operand.compileList (model.field? column) values)
  | .noneOf values => do
    return .noneOf column (← Operand.compileList (model.field? column) values)
  | .greatest aggregated source none => return .greatest column aggregated source []
  | .greatest aggregated source (some filter) => do
    return .greatest column aggregated source (← compileAll model filter)

def compileAll (model : Model) : List (String × Expr) → Binding (List Condition)
  | [] => return []
  | (column, expr) :: rest => do
    let condition ← compile model column expr
    let conditions ← compileAll model rest
    return condition :: conditions

end

mutual

def sql : Condition → Sql
  | .isNull column => [.name column, .text " IS NULL"]
  | .isNotNull column => [.name column, .text " IS NOT NULL"]
  | .equals column operand => [.name column, .text " = ("] ++ operand.sql ++ [.text ")"]
  | .compares column comparison operand =>
    [.name column, .text (" " ++ comparison.token ++ " (")] ++ operand.sql ++ [.text ")"]
  | .between column low high =>
    [.name column, .text " BETWEEN "] ++ low.sql ++ [.text " AND "] ++ high.sql
  | .oneOf _ [] => [.text "0=1"]
  | .oneOf column items =>
    [.name column, .text " IN ("] ++ Sql.separated "," (items.map Operand.sql) ++ [.text ")"]
  | .noneOf _ [] => [.text "0=0"]
  | .noneOf column items =>
    [.name column, .text " NOT IN ("] ++ Sql.separated "," (items.map Operand.sql) ++ [.text ")"]
  | .greatest column aggregated source [] =>
    [.name column, .text (" = (SELECT MAX(" ++ aggregated ++ ") FROM " ++ source ++ ")")]
  | .greatest column aggregated source nested =>
    [.name column, .text (" = (SELECT MAX(" ++ aggregated ++ ") FROM " ++ source ++ " WHERE ")] ++
      Sql.separated " AND " (sqlAll nested) ++ [.text ")"]

def sqlAll : List Condition → List Sql
  | [] => []
  | condition :: rest => condition.sql :: sqlAll rest

end

def body (conditions : List Condition) : Sql :=
  Sql.separated " AND " (sqlAll conditions)

/-- The conditions behind the word `WHERE`. Without conditions there is no clause. -/
def clause? (conditions : List Condition) : Option Sql :=
  if conditions.isEmpty then none else some (.text "WHERE " :: body conditions)

end Condition

end SqlMapper
