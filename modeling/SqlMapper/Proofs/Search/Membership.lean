import SqlMapper.Proofs.Search.Meaning

namespace SqlMapper

/-! Being in a list, and not being in it.

The two conditions on one list are each other's negation, so they are never true
together.  A null in the list keeps both from being true, unless the column equals
another element.
-/

open Binding (outcome)
open Search (Collation Predicate Scope Truth truth?)

variable {model : Model} {column : String} {before after : Parameters} {items : List Value}

/-- Whether an element of a list equals the value that a column holds.  Null equals nothing. -/
def Value.Equals (item : Value) (collation : Collation) (field : Option Field) (held : Value) :
    Prop :=
  item.isNull = false ∧ collation.equal held (item.compared field) = true

namespace Search

theorem Truth.settled_iff {truth : Truth} :
    ((truth = .holds ∨ truth.not = .holds) ∧ ¬ (truth = .holds ∧ truth.not = .holds)) ↔
      truth ≠ .unknown := by
  cases truth <;> decide

namespace Scope

variable {scope : Scope} {field : Option Field}

theorem among_eq_holds (held : (scope.row column).isNull = false) :
    scope.membership column (items.map (Value.compared field)) = .holds ↔
      ∃ item ∈ items, item.Equals scope.collation field (scope.row column) := by
  rw [membership_eq_holds]
  constructor
  · rintro ⟨element, member, _, given, equal⟩
    obtain ⟨item, included, rfl⟩ := List.mem_map.mp member
    rw [Value.isNull_compared] at given
    exact ⟨item, included, given, equal⟩
  · rintro ⟨item, included, given, equal⟩
    refine ⟨_, List.mem_map_of_mem included, held, ?_, equal⟩
    rw [Value.isNull_compared]
    exact given

theorem among_eq_fails (held : (scope.row column).isNull = false) :
    scope.membership column (items.map (Value.compared field)) = .fails ↔
      ∀ item ∈ items, item.isNull = false ∧
        ¬ item.Equals scope.collation field (scope.row column) := by
  rw [membership_eq_fails, List.forall_mem_map]
  refine forall₂_congr fun item _ => ?_
  rw [Value.Equals, Value.isNull_compared]
  constructor
  · rintro ⟨_, given, apart⟩
    exact ⟨given, fun equal => Bool.false_ne_true (apart.symm.trans equal.2)⟩
  · rintro ⟨given, apart⟩
    exact ⟨held, given, Bool.eq_false_iff.mpr fun equal => apart ⟨given, equal⟩⟩

/-- Whether a value is in a list is open only if it equals no element and one is null. -/
theorem among_ne_unknown (held : (scope.row column).isNull = false) :
    scope.membership column (items.map (Value.compared field)) ≠ .unknown ↔
      (∀ item ∈ items, item.isNull = false) ∨
        ∃ item ∈ items, item.Equals scope.collation field (scope.row column) := by
  have inside : scope.membership column (items.map (Value.compared field)) = .holds ↔ _ :=
    among_eq_holds held
  have outside : scope.membership column (items.map (Value.compared field)) = .fails ↔ _ :=
    among_eq_fails held
  rw [← inside]
  cases settled : scope.membership column (items.map (Value.compared field)) with
  | holds => simp
  | fails =>
      have given item member := (outside.mp settled item member).1
      simpa using given
  | unknown =>
      rw [settled] at inside outside
      simp only [ne_eq, not_true_eq_false, reduceCtorEq, or_false, false_iff]
      intro given
      -- An equality of values that are there either holds or fails.
      refine Truth.noConfusion (outside.mpr fun item member => ⟨given item member, fun equal => ?_⟩)
      exact Truth.noConfusion (inside.mpr ⟨item, member, equal⟩)

end Scope

end Search

namespace Condition

theorem outcome_compileAll_single {expr : Expr} {condition : Condition}
    (compiled : outcome (compile model column expr) before = (.ok condition, after)) :
    outcome (compileAll model [(column, expr)]) before = (.ok [condition], after) := by
  rw [compileAll, Binding.outcome_bind_ok compiled]
  rfl

/-- The two conditions on a list bind the same operands. -/
theorem outcomes_of_list {values : Value} {operands : List Operand}
    (compiled : outcome (Operand.compileList (model.field? column) values) before =
      (.ok operands, after)) :
    outcome (compileAll model [(column, .oneOf values)]) before =
        (.ok [.oneOf column operands], after) ∧
      outcome (compileAll model [(column, .noneOf values)]) before =
        (.ok [.noneOf column operands], after) := by
  constructor
  · refine outcome_compileAll_single ?_
    rw [compile, Binding.outcome_bind_ok compiled]
    rfl
  · refine outcome_compileAll_single ?_
    rw [compile, Binding.outcome_bind_ok compiled]
    rfl

/-- The clause of a single condition has the truth of the predicate that it says. -/
theorem truth?_single {expr : Expr} {condition : Condition} {predicate : Predicate}
    (compiled : outcome (compileAll model [(column, expr)]) before = (.ok [condition], after))
    (plain : expr.Plain) (said : condition.predicate? = some predicate) (scope : Scope) :
    truth? scope ((clause? [condition]).map (Sql.render .sqlServer)) =
      some (predicate.truth scope) := by
  have plainly : Filter.Plain [(column, expr)] := ⟨plain, trivial⟩
  have saying : [condition].map predicate? = [predicate].map some := congrArg (fun it => [it]) said
  rw [truth?_of_compileAll plainly compiled saying scope, List.map_singleton]
  cases predicate.truth scope <;> rfl

end Condition

/-- For a column that holds a value, the conditions that one list is compiled to are each
other's negation, and one of them is true exactly if no element is null or the column equals an
element. -/
theorem oneOf_or_noneOf_iff {operands : List Operand} (fresh : before.Fresh)
    (compiled : outcome (items.mapM (Operand.compile (model.field? column))) before =
      (.ok operands, after))
    (collation : Collation) (row : String → Value) (held : (row column).isNull = false) :
    let equals (item : Value) := item.Equals collation (model.field? column) (row column)
    ∃ inside outside included excluded,
      outcome (Condition.compileAll model [(column, .oneOf (.list items))]) before =
          (.ok inside, after) ∧
        outcome (Condition.compileAll model [(column, .noneOf (.list items))]) before =
          (.ok outside, after) ∧
        truth? { row, parameters := after, collation }
          ((Condition.clause? inside).map (Sql.render .sqlServer)) = some included ∧
        truth? { row, parameters := after, collation }
          ((Condition.clause? outside).map (Sql.render .sqlServer)) = some excluded ∧
        excluded = included.not ∧
        (included = .holds ↔ ∃ item ∈ items, equals item) ∧
        (excluded = .holds ↔ ∀ item ∈ items, item.isNull = false ∧ ¬ equals item) ∧
        ((included = .holds ∨ excluded = .holds) ∧ ¬ (included = .holds ∧ excluded = .holds) ↔
          (∀ item ∈ items, item.isNull = false) ∨ ∃ item ∈ items, equals item) := by
  intro equals
  have listed : outcome (Operand.compileList (model.field? column) (.list items)) before =
      (.ok operands, after) := compiled
  obtain ⟨_, _, elements⟩ := Operand.values_of_compileList fresh listed
  obtain ⟨included, excluded, saysIn, saysOut, truths⟩ :=
    Condition.predicates_of_list elements column
  obtain ⟨compiledIn, compiledOut⟩ := Condition.outcomes_of_list listed
  let scope : Scope := { row, parameters := after, collation }
  obtain ⟨truthIn, truthOut⟩ := truths scope (.refl after)
  have readIn := Condition.truth?_single compiledIn trivial saysIn scope
  have readOut := Condition.truth?_single compiledOut trivial saysOut scope
  rw [truthIn] at readIn
  rw [truthOut] at readOut
  refine ⟨_, _, _, _, compiledIn, compiledOut, readIn, readOut, rfl, ?_, ?_, ?_⟩
  · exact Scope.among_eq_holds held
  · rw [Truth.not_eq_holds]
    exact Scope.among_eq_fails held
  · rw [Truth.settled_iff]
    exact Scope.among_ne_unknown held

/-- A letter of weight 3 is not among those of weight 1 or 2. -/
theorem oneOf_or_noneOf_posted :
    ∃ inside outside after,
      outcome (Condition.compileAll letter [("weight", .oneOf (.list [.int 1, .int 2]))]) .empty =
          (.ok inside, after) ∧
        outcome (Condition.compileAll letter [("weight", .noneOf (.list [.int 1, .int 2]))]) .empty =
          (.ok outside, after) ∧
        truth? { row := posted, parameters := after, collation := plainly }
          ((Condition.clause? inside).map (Sql.render .sqlServer)) = some .fails ∧
        truth? { row := posted, parameters := after, collation := plainly }
          ((Condition.clause? outside).map (Sql.render .sqlServer)) = some .holds := by
  have compiled : outcome ([.int 1, .int 2].mapM (Operand.compile (letter.field? "weight"))) .empty =
      (.ok _, _) := rfl
  obtain ⟨inside, outside, included, excluded, first, second, readIn, readOut, negated, _, apart, _⟩ :=
    oneOf_or_noneOf_iff Parameters.fresh_empty compiled plainly posted rfl
  have missing : excluded = .holds := by
    refine apart.mpr (List.forall_mem_cons.mpr ⟨⟨rfl, ?_⟩, List.forall_mem_singleton.mpr ⟨rfl, ?_⟩⟩)
    · exact fun equal => Bool.false_ne_true equal.2
    · exact fun equal => Bool.false_ne_true equal.2
  rw [missing] at negated readOut
  rw [Truth.not_eq_holds.mp negated.symm] at readIn
  exact ⟨inside, outside, _, first, second, readIn, readOut⟩

/-- A null in the list keeps both conditions from being true. -/
theorem null_leaves_both_open :
    ∃ inside outside after,
      outcome (Condition.compileAll letter [("weight", .oneOf (.list [.int 1, .null]))]) .empty =
          (.ok inside, after) ∧
        outcome (Condition.compileAll letter [("weight", .noneOf (.list [.int 1, .null]))]) .empty =
          (.ok outside, after) ∧
        (posted "weight").isNull = false ∧
        (Condition.clause? outside).map (Sql.render .sqlServer) =
          some "WHERE [weight] NOT IN (@param1,NULL)" ∧
        truth? { row := posted, parameters := after, collation := plainly }
          ((Condition.clause? inside).map (Sql.render .sqlServer)) = some .unknown ∧
        truth? { row := posted, parameters := after, collation := plainly }
          ((Condition.clause? outside).map (Sql.render .sqlServer)) = some .unknown := by
  refine ⟨_, _, _, rfl, rfl, rfl, rfl, ?_, ?_⟩
  · rfl
  · rfl

end SqlMapper
