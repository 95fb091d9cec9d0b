import SqlMapper.Filter.Basic
import SqlMapper.Operand

/-!
Fragments: what stands on the right of an operator.
-/

namespace SqlMapper

inductive Fragment where
  | one (operand : Operand)
  | range (low high : Operand)
  | list (items : List Operand)
  | verbatim (text : String)
deriving DecidableEq, Repr

namespace Fragment

def isNull : Fragment → Bool
  | .one .null => true
  | _ => false

/-- Whether the fragment is a list without items, of which nothing is written. -/
def isEmpty : Fragment → Bool
  | .list [] => true
  | _ => false

def sql : Fragment → Sql
  | .one operand => operand.sql
  | .range low high => low.sql ++ [.text " AND "] ++ high.sql
  | .list items => Sql.separated "," (items.map Operand.sql)
  | .verbatim text => [.text text]

end Fragment

/-- The operands of a list, or of a value that stands for a list of its own and is bound as it
is. -/
def Operand.compileList (field : Option Field) : Value → Binding (List Operand)
  | .list items => items.mapM (Operand.compile field)
  | value => do return [← Operand.bind value]

def Expr.compileOperand (field : Option Field) : Expr → Binding Fragment
  | .eq value | .compare _ value => do return .one (← Operand.compile field value)
  | .between low high => do
    return .range (← Operand.compile field low) (← Operand.compile field high)
  | .oneOf values | .noneOf values => do return .list (← Operand.compileList field values)
  | .greatest aggregated _ _ => return .verbatim aggregated

end SqlMapper
