import SqlMapper.Filter.Basic
import SqlMapper.Parameters

namespace SqlMapper.Search

/-! Predicates as the database evaluates them.

A comparison with null is neither true nor false, and what is put together from
unknown truths may be unknown itself.  The database lets a row through whose
predicates are all true; unknown does not suffice.
-/

inductive Truth where
  | holds
  | fails
  | unknown
deriving DecidableEq, Repr

namespace Truth

def ofBool : Bool → Truth
  | true => .holds
  | false => .fails

def and : Truth → Truth → Truth
  | .fails, _ | _, .fails => .fails
  | .holds, .holds => .holds
  | _, _ => .unknown

def or : Truth → Truth → Truth
  | .holds, _ | _, .holds => .holds
  | .fails, .fails => .fails
  | _, _ => .unknown

def not : Truth → Truth
  | .holds => .fails
  | .fails => .holds
  | .unknown => .unknown

def all (truths : List Truth) : Truth := truths.foldr and .holds

def any (truths : List Truth) : Truth := truths.foldr or .fails

variable {left right truth : Truth} {truths : List Truth} {value : Bool}

@[simp]
theorem ofBool_eq_holds : ofBool value = .holds ↔ value = true := by
  cases value <;> simp [ofBool]

@[simp]
theorem ofBool_eq_fails : ofBool value = .fails ↔ value = false := by
  cases value <;> simp [ofBool]

@[simp]
theorem and_eq_holds : left.and right = .holds ↔ left = .holds ∧ right = .holds := by
  cases left <;> cases right <;> decide

@[simp]
theorem or_eq_holds : left.or right = .holds ↔ left = .holds ∨ right = .holds := by
  cases left <;> cases right <;> decide

@[simp]
theorem or_eq_fails : left.or right = .fails ↔ left = .fails ∧ right = .fails := by
  cases left <;> cases right <;> decide

@[simp]
theorem not_eq_holds : truth.not = .holds ↔ truth = .fails := by
  cases truth <;> decide

@[simp]
theorem all_eq_holds : all truths = .holds ↔ ∀ truth ∈ truths, truth = .holds := by
  induction truths with
  | nil => simp [all]
  | cons first others ih =>
      rw [all, List.foldr_cons, and_eq_holds, ← all, ih]
      simp

@[simp]
theorem any_eq_holds : any truths = .holds ↔ .holds ∈ truths := by
  induction truths with
  | nil => simp [any]
  | cons first others ih =>
      rw [any, List.foldr_cons, or_eq_holds, ← any, ih]
      simp [eq_comm]

@[simp]
theorem any_eq_fails : any truths = .fails ↔ ∀ truth ∈ truths, truth = .fails := by
  induction truths with
  | nil => simp [any]
  | cons first others ih =>
      rw [any, List.foldr_cons, or_eq_fails, ← any, ih]
      simp

end Truth

/-- How the database compares two values neither of which is null. -/
structure Collation where
  equal : Value → Value → Bool
  compare : Comparison → Value → Value → Bool

/-- What a predicate is evaluated on: the columns of a row, the parameters of the
statement and the comparison of values. -/
structure Scope where
  row : String → Value
  parameters : Parameters
  collation : Collation

inductive Scalar where
  | column (name : String)
  | parameter (name : String)
  | number (value : Nat)
  | null
deriving DecidableEq, Repr

def Scalar.value (scope : Scope) : Scalar → Value
  | .column name => scope.row name
  | .parameter name => (scope.parameters.get? name).getD .null
  | .number value => .int (Int64.ofNat value)
  | .null => .null

/-- The truth of a comparison, which is unknown beside null. -/
def related (relation : Value → Value → Bool) (left right : Value) : Truth :=
  if left.isNull || right.isNull then .unknown else .ofBool (relation left right)

section

variable {relation : Value → Value → Bool} {left right : Value}

@[simp]
theorem related_eq_holds : related relation left right = .holds ↔
    left.isNull = false ∧ right.isNull = false ∧ relation left right = true := by
  unfold related
  cases left.isNull <;> cases right.isNull <;> simp

@[simp]
theorem related_eq_fails : related relation left right = .fails ↔
    left.isNull = false ∧ right.isNull = false ∧ relation left right = false := by
  unfold related
  cases left.isNull <;> cases right.isNull <;> simp

end

inductive Predicate where
  | isNull (tested : Scalar)
  | isNotNull (tested : Scalar)
  | equals (left right : Scalar)
  | compares (comparison : Comparison) (left right : Scalar)
  | between (tested low high : Scalar)
  | oneOf (tested : Scalar) (items : List Scalar)
  | noneOf (tested : Scalar) (items : List Scalar)
deriving DecidableEq, Repr

namespace Predicate

/-- The truth of equality.  Numbers that stand in the text are equal or not, whatever
is compared to what is stored. -/
def equality (scope : Scope) : Scalar → Scalar → Truth
  | .number left, .number right => .ofBool (left == right)
  | left, right => related scope.collation.equal (left.value scope) (right.value scope)

def truth (scope : Scope) : Predicate → Truth
  | .isNull tested => .ofBool (tested.value scope).isNull
  | .isNotNull tested => .ofBool !(tested.value scope).isNull
  | .equals left right => equality scope left right
  | .compares comparison left right =>
    related (scope.collation.compare comparison) (left.value scope) (right.value scope)
  | .between tested low high =>
    (related (scope.collation.compare .atLeast) (tested.value scope) (low.value scope)).and
      (related (scope.collation.compare .atMost) (tested.value scope) (high.value scope))
  | .oneOf tested items => .any (items.map (equality scope tested))
  | .noneOf tested items => (Truth.any (items.map (equality scope tested))).not

end Predicate

end SqlMapper.Search
