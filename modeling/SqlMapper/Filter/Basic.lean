import SqlMapper.Value

/-!
Filters: conditions on the fields of a model, all of which have to hold.

A condition compares one field with values, or with the greatest value that a subquery finds. The
subquery may have a filter of its own. Callers put filters together condition by condition, from
`Filter.empty` on.
-/

namespace SqlMapper

inductive Comparison where
  | greater
  | atLeast
  | less
  | atMost
  | different
deriving DecidableEq, Repr

namespace Comparison

def name : Comparison → String
  | .greater => "gt"
  | .atLeast => "gte"
  | .less => "lt"
  | .atMost => "lte"
  | .different => "neq"

def token : Comparison → String
  | .greater => ">"
  | .atLeast => ">="
  | .less => "<"
  | .atMost => "<="
  | .different => "!="

end Comparison

inductive Operator where
  | compare (comparison : Comparison)
  | between
  | oneOf
  | noneOf
  | greatest
deriving DecidableEq, Repr

namespace Operator

def name : Operator → String
  | .compare comparison => comparison.name
  | .between => "between"
  | .oneOf => "inq"
  | .noneOf => "nin"
  | .greatest => "max"

/-- The operator in statements. The greatest value is compared by a subquery and has none. -/
def token? : Operator → Option String
  | .compare comparison => some comparison.token
  | .between => some "BETWEEN"
  | .oneOf => some "IN"
  | .noneOf => some "NOT IN"
  | .greatest => none

def all : List Operator := [
  .compare .greater, .compare .atLeast, .compare .less, .compare .atMost, .between, .oneOf,
  .noneOf, .compare .different, .greatest]

def ofName? (name : String) : Option Operator :=
  all.find? (·.name == name)

end Operator

inductive Expr where
  | eq (value : Value)
  | compare (comparison : Comparison) (value : Value)
  | between (low high : Value)
  /-- The field is one of the values of a list. A value that is no list stands for itself. -/
  | oneOf (values : Value)
  /-- The field is none of the values of a list. A value that is no list stands for itself. -/
  | noneOf (values : Value)
  /-- The field has the greatest value of `field` in `source` among the rows that a filter, if
  there is one, lets through. Both texts go into the statement as they are. -/
  | greatest (field source : String) (filter : Option (List (String × Expr)))

/-- The conditions on the fields of a model. The order is kept, and a field may occur repeatedly. -/
abbrev Filter := List (String × Expr)

def Expr.operator? : Expr → Option Operator
  | .eq _ => none
  | .compare comparison _ => some (.compare comparison)
  | .between _ _ => some .between
  | .oneOf _ => some .oneOf
  | .noneOf _ => some .noneOf
  | .greatest _ _ _ => some .greatest

/-- The greatest value of a field in a source, among the rows that a filter, if there is one, lets
through. -/
structure Greatest where
  field : String
  source : String
  filter : Option Filter := none

def Greatest.among (greatest : Greatest) (filter : Filter) : Greatest :=
  { greatest with filter := some filter }

namespace Filter

def empty : Filter := []

/-- Adds a condition behind those that are there. -/
def and (filter : Filter) (field : String) (expr : Expr) : Filter :=
  filter ++ [(field, expr)]

def eq (filter : Filter) (field : String) (value : Value) : Filter :=
  filter.and field (.eq value)

def isNull (filter : Filter) (field : String) : Filter :=
  filter.and field (.eq .null)

def compare (filter : Filter) (comparison : Comparison) (field : String) (value : Value) : Filter :=
  filter.and field (.compare comparison value)

def between (filter : Filter) (field : String) (low high : Value) : Filter :=
  filter.and field (.between low high)

def oneOf (filter : Filter) (field : String) (values : List Value) : Filter :=
  filter.and field (.oneOf (.list values))

def noneOf (filter : Filter) (field : String) (values : List Value) : Filter :=
  filter.and field (.noneOf (.list values))

def greatest (filter : Filter) (field : String) (greatest : Greatest) : Filter :=
  filter.and field (.greatest greatest.field greatest.source greatest.filter)

end Filter

end SqlMapper
