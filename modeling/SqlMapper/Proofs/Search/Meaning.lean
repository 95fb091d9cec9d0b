import SqlMapper.Proofs.Binding.Content
import SqlMapper.Proofs.Search.Tokens
import SqlMapper.Proofs.Statement.Placeholders

namespace SqlMapper

/-! What filters mean.

A filter says which rows it accepts, by the values that its columns hold.  The clause
that it is compiled to, read as text and evaluated on the parameters that are bound on
the way, is true of exactly these rows, whatever the relations by which values are
compared.
-/

open Binding (outcome)
open Search (Collation Predicate Scalar Scope Truth truth?)

variable {before after : Parameters} {field : Option Field} {value : Value} {model : Model}
  {scope : Scope}

/-- The value as a column of the type compares it: a truth value as a bit, a point in
time as its text, a document as its text, and any other value as it is. -/
def FieldType.compared (value : Value) : FieldType → Value
  | .boolean => .int (if value.truthy then 1 else 0)
  | .date => (value.instant?.map fun instant => .text instant.stored).getD value
  | .json | .array _ => .text value.toJson.compact
  | .string | .text | .number | .point => value

/-- The value as it is compared in a field, or under a name that is no field. -/
def Value.compared (field : Option Field) (value : Value) : Value :=
  match field with
  | some field => if value.isNull then .null else field.type.compared value
  | none => value

/-- The elements that a field is looked for in.  A value that is no list is its only
element, as it is. -/
def Value.elements (field : Option Field) : Value → List Value
  | .list items => items.map (compared field)
  | value => [value]

/-- Whether a column that holds a value fulfils a condition. -/
def Expr.Accepts (collation : Collation) (field : Option Field) (held : Value) : Expr → Prop
  | .eq value =>
    if value.isNull then held.isNull = true
    else held.isNull = false ∧ collation.equal held (value.compared field) = true
  | .compare comparison value =>
    if comparison = .different ∧ value.isNull then held.isNull = false
    else held.isNull = false ∧ value.isNull = false ∧
      collation.compare comparison held (value.compared field) = true
  | .between low high =>
    (held.isNull = false ∧ low.isNull = false ∧ high.isNull = false) ∧
      collation.compare .atLeast held (low.compared field) = true ∧
        collation.compare .atMost held (high.compared field) = true
  | .oneOf values =>
    held.isNull = false ∧ ∃ element ∈ values.elements field,
      element.isNull = false ∧ collation.equal held element = true
  | .noneOf values =>
    values.elements field = [] ∨ held.isNull = false ∧
      ∀ element ∈ values.elements field, collation.equal held element = false
  | .greatest _ _ _ => False

def Filter.Accepts (model : Model) (collation : Collation) (row : String → Value)
    (filter : Filter) : Prop :=
  ∀ entry ∈ filter, entry.2.Accepts collation (model.field? entry.1) (row entry.1)

/-- A condition on a row alone, which leaves no null out of consideration: it looks
into no other table and excludes no null. -/
def Expr.IsDirect : Expr → Prop
  | .noneOf (.list items) => ∀ item ∈ items, item.isNull = false
  | .noneOf value => value.isNull = false
  | .greatest _ _ _ => False
  | _ => True

theorem FieldType.isNull_compared (given : value.isNull = false) (type : FieldType) :
    (type.compared value).isNull = false := by
  cases type with
  | boolean | json | array => rfl
  | date =>
      cases read : value.instant? with
      | none => simpa [compared, read] using given
      | some instant => simp [compared, read, Value.isNull]
  | string | text | number | point => exact given

theorem Value.isNull_compared (field : Option Field) (value : Value) :
    (value.compared field).isNull = value.isNull := by
  unfold compared
  cases field with
  | none => rfl
  | some field =>
      cases given : value.isNull with
      | true => rfl
      | false => exact field.type.isNull_compared given

namespace Operand

theorem compared_of_stored {field : Field} {held : Value} (other : field.type ≠ .boolean)
    (done : stored field value = .ok held) : field.type.compared value = held := by
  unfold stored at done
  cases type : field.type with
  | boolean => exact absurd type other
  | date =>
      rw [type] at done
      dsimp only at done
      cases read : value.instant? with
      | none => simp [read] at done
      | some instant => simpa [FieldType.compared, read] using done
  | _ =>
      rw [type] at done
      exact Except.ok.inj done

/-- What holds of an operand that has been compiled for a value. -/
structure StandsFor (operand : Operand) (field : Option Field) (value : Value)
    (before after : Parameters) : Prop where
  kept : after.Extends before
  fresh : after.Fresh
  null : operand = .null ↔ value.isNull = true
  value : ∀ scope : Scope, scope.parameters.Extends after →
    operand.scalar.value scope = value.compared field

theorem standsFor_null (fresh : before.Fresh) (absent : value.isNull = true) :
    StandsFor .null field value before before where
  kept := .refl before
  fresh := fresh
  null := by simp [absent]
  value := by
    intro scope _
    cases field with
    | none => exact (Value.isNull_iff.mp absent).symm
    | some field => simp [scalar, Scalar.value, Value.compared, absent]

theorem standsFor_bound {held : Value} (fresh : before.Fresh) (given : value.isNull = false)
    (same : value.compared field = held) :
    StandsFor (.parameter (Parameters.nameAt before.next)) field value before
      (before.addNamed (Parameters.nameAt before.next) held) where
  kept := Parameters.extends_addNamed _ _ _
  fresh := fresh.add held
  null := by simp [given]
  value := by
    intro scope extended
    have found := Parameters.get?_of_extends extended (fresh.get?_add held)
    simp [scalar, Scalar.value, found, same]

theorem standsFor_bit {field : Field} (fresh : before.Fresh) (given : value.isNull = false)
    (boolean : field.type = .boolean) :
    StandsFor (.bit value.truthy) (some field) value before before where
  kept := .refl before
  fresh := fresh
  null := by simp [given]
  value := by
    intro scope _
    simp only [scalar, Scalar.value, Value.compared, given, boolean, FieldType.compared]
    cases value.truthy <;> rfl

theorem standsFor_of_compile {operand : Operand} (fresh : before.Fresh)
    (compiled : outcome (compile field value) before = (.ok operand, after)) :
    operand.StandsFor field value before after := by
  cases given : value.isNull with
  | true =>
      rw [outcome_compile_null given] at compiled
      cases compiled
      exact standsFor_null fresh given
  | false =>
      cases field with
      | none =>
          have bound : outcome (compile none value) before = outcome (bind value) before := by
            rw [compile, given]
            rfl
          cases bound.symm.trans compiled
          exact standsFor_bound fresh given rfl
      | some field =>
          by_cases boolean : field.type = .boolean
          · rw [outcome_compile_boolean given boolean] at compiled
            cases compiled
            exact standsFor_bit fresh given boolean
          · rw [outcome_compile_stored given boolean] at compiled
            cases read : stored field value with
            | error error => simp [read] at compiled
            | ok held =>
                rw [read] at compiled
                cases compiled
                refine standsFor_bound fresh given ?_
                simp [Value.compared, given, compared_of_stored boolean read]

theorem values_of_mapM {items : List Value} {operands : List Operand} (fresh : before.Fresh)
    (compiled : outcome (items.mapM (compile field)) before = (.ok operands, after)) :
    after.Extends before ∧ after.Fresh ∧ ∀ scope : Scope, scope.parameters.Extends after →
      operands.map (fun operand => operand.scalar.value scope) =
        items.map (Value.compared field) := by
  induction items generalizing before operands with
  | nil =>
      cases compiled
      exact ⟨.refl _, fresh, fun _ _ => rfl⟩
  | cons item rest ih =>
      rw [List.mapM_cons] at compiled
      obtain ⟨operand, middle, head, compiled⟩ := Binding.steps_of_bind compiled
      obtain ⟨others, left, tail, same⟩ := Binding.steps_of_bind compiled
      cases same
      have here := standsFor_of_compile fresh head
      obtain ⟨kept, freshAfter, values⟩ := ih here.fresh tail
      refine ⟨kept.trans here.kept, freshAfter, fun scope extended => ?_⟩
      rw [List.map_cons, List.map_cons, here.value scope (extended.trans kept),
        values scope extended]

theorem values_of_compileList {values : Value} {operands : List Operand} (fresh : before.Fresh)
    (compiled : outcome (compileList field values) before = (.ok operands, after)) :
    after.Extends before ∧ after.Fresh ∧ ∀ scope : Scope, scope.parameters.Extends after →
      operands.map (fun operand => operand.scalar.value scope) = values.elements field := by
  cases values with
  | list items => exact values_of_mapM fresh compiled
  | _ =>
      cases compiled
      refine ⟨Parameters.extends_addNamed _ _ _, fresh.add _, fun scope extended => ?_⟩
      have found := Parameters.get?_of_extends extended (fresh.get?_add _)
      simp [scalar, Scalar.value, Value.elements, found]

end Operand

namespace Search.Predicate

theorem equality_column (scope : Scope) (column : String) (scalar : Scalar) :
    equality scope (.column column) scalar =
      related scope.collation.equal (scope.row column) (scalar.value scope) := by
  cases scalar <;> rfl

theorem equalities_column {operands : List Operand} {elements : List Value}
    (values : operands.map (fun operand => operand.scalar.value scope) = elements)
    (column : String) :
    (operands.map Operand.scalar).map (equality scope (.column column)) =
      elements.map (related scope.collation.equal (scope.row column)) := by
  rw [← values, List.map_map, List.map_map]
  exact List.map_congr_left fun operand _ => equality_column scope column operand.scalar

end Search.Predicate

namespace Search.Scope

/-- The truth of a column's value being among some values. -/
def membership (scope : Scope) (column : String) (elements : List Value) : Truth :=
  .any (elements.map (related scope.collation.equal (scope.row column)))

variable {column : String} {elements : List Value}

theorem membership_eq_holds : scope.membership column elements = .holds ↔
    ∃ element ∈ elements, (scope.row column).isNull = false ∧ element.isNull = false ∧
      scope.collation.equal (scope.row column) element = true := by
  simp [membership]

theorem membership_eq_fails : scope.membership column elements = .fails ↔
    ∀ element ∈ elements, (scope.row column).isNull = false ∧ element.isNull = false ∧
      scope.collation.equal (scope.row column) element = false := by
  simp [membership]

end Search.Scope

/-- What holds of a condition that has been compiled for an expression: it says a
predicate that is true where the expression accepts the column. -/
structure Condition.Says (condition : Condition) (model : Model) (column : String) (expr : Expr)
    (before after : Parameters) : Prop where
  kept : after.Extends before
  fresh : after.Fresh
  meaning : ∃ predicate, condition.predicate? = some predicate ∧
    ∀ scope : Scope, scope.parameters.Extends after →
      (predicate.truth scope = .holds ↔
        expr.Accepts scope.collation (model.field? column) (scope.row column))

namespace Condition

variable {column : String} {condition : Condition}

theorem says_eq {value : Value} (fresh : before.Fresh)
    (compiled : outcome (compile model column (.eq value)) before = (.ok condition, after)) :
    condition.Says model column (.eq value) before after := by
  obtain ⟨operand, _, bound, same⟩ := Binding.steps_of_bind compiled
  cases same
  have stands := Operand.standsFor_of_compile fresh bound
  refine ⟨stands.kept, stands.fresh, ?_⟩
  by_cases absent : operand = .null
  · refine ⟨_, by rw [if_pos absent]; rfl, fun scope extended => ?_⟩
    simp [Predicate.truth, Scalar.value, Expr.Accepts, stands.null.mp absent]
  · have given : value.isNull = false := by simpa [stands.null] using absent
    refine ⟨_, by rw [if_neg absent]; rfl, fun scope extended => ?_⟩
    rw [Predicate.truth, Predicate.equality_column, stands.value scope extended]
    simp [Expr.Accepts, given, Value.isNull_compared]

theorem says_compare {comparison : Comparison} {value : Value} (fresh : before.Fresh)
    (compiled : outcome (compile model column (.compare comparison value)) before =
      (.ok condition, after)) :
    condition.Says model column (.compare comparison value) before after := by
  obtain ⟨operand, _, bound, same⟩ := Binding.steps_of_bind compiled
  cases same
  have stands := Operand.standsFor_of_compile fresh bound
  refine ⟨stands.kept, stands.fresh, ?_⟩
  by_cases absent : comparison = .different ∧ operand = .null
  · refine ⟨_, by rw [if_pos absent]; rfl, fun scope extended => ?_⟩
    simp [Predicate.truth, Scalar.value, Expr.Accepts, absent.1,
      stands.null.mp absent.2]
  · refine ⟨_, by rw [if_neg absent]; rfl, fun scope extended => ?_⟩
    rw [stands.null] at absent
    rw [Predicate.truth, stands.value scope extended, Expr.Accepts, if_neg absent]
    simp [Scalar.value, Value.isNull_compared]

theorem says_between {low high : Value} (fresh : before.Fresh)
    (compiled : outcome (compile model column (.between low high)) before =
      (.ok condition, after)) :
    condition.Says model column (.between low high) before after := by
  obtain ⟨lower, _, first, compiled⟩ := Binding.steps_of_bind compiled
  obtain ⟨upper, _, second, same⟩ := Binding.steps_of_bind compiled
  cases same
  have standsLow := Operand.standsFor_of_compile fresh first
  have standsHigh := Operand.standsFor_of_compile standsLow.fresh second
  refine ⟨standsHigh.kept.trans standsLow.kept, standsHigh.fresh, _, rfl,
    fun scope extended => ?_⟩
  rw [Predicate.truth, standsLow.value scope (extended.trans standsHigh.kept),
    standsHigh.value scope extended]
  simp only [Truth.and_eq_holds, Search.related_eq_holds, Value.isNull_compared,
    Scalar.value, Expr.Accepts]
  constructor
  · rintro ⟨⟨held, given, above⟩, _, givenHigh, below⟩
    exact ⟨⟨held, given, givenHigh⟩, above, below⟩
  · rintro ⟨⟨held, given, givenHigh⟩, above, below⟩
    exact ⟨⟨held, given, above⟩, held, givenHigh, below⟩

/-- A list of operands says two predicates of a column: that its value is among the
elements that the operands stand for, and that it is not. -/
theorem predicates_of_list {values : Value} {operands : List Operand}
    (elements : ∀ scope : Scope, scope.parameters.Extends after →
      operands.map (fun operand => operand.scalar.value scope) = values.elements field)
    (column : String) :
    ∃ included excluded, (oneOf column operands).predicate? = some included ∧
      (noneOf column operands).predicate? = some excluded ∧
      ∀ scope : Scope, scope.parameters.Extends after →
        included.truth scope = scope.membership column (values.elements field) ∧
          excluded.truth scope = (scope.membership column (values.elements field)).not := by
  cases operands with
  | nil =>
      refine ⟨_, _, rfl, rfl, fun scope extended => ?_⟩
      rw [← elements scope extended]
      exact ⟨rfl, rfl⟩
  | cons first others =>
      refine ⟨_, _, rfl, rfl, fun scope extended => ?_⟩
      rw [Predicate.truth, Predicate.truth,
        Predicate.equalities_column (elements scope extended)]
      exact ⟨rfl, rfl⟩

theorem says_oneOf {values : Value} (fresh : before.Fresh)
    (compiled : outcome (compile model column (.oneOf values)) before = (.ok condition, after)) :
    condition.Says model column (.oneOf values) before after := by
  obtain ⟨items, _, bound, same⟩ := Binding.steps_of_bind compiled
  cases same
  obtain ⟨kept, freshAfter, elements⟩ := Operand.values_of_compileList fresh bound
  obtain ⟨included, _, said, _, truths⟩ := predicates_of_list elements column
  refine ⟨kept, freshAfter, included, said, fun scope extended => ?_⟩
  rw [(truths scope extended).1, Scope.membership_eq_holds]
  constructor
  · rintro ⟨element, member, held, given, equal⟩
    exact ⟨held, element, member, given, equal⟩
  · rintro ⟨held, element, member, given, equal⟩
    exact ⟨element, member, held, given, equal⟩

theorem isNull_of_direct {values element : Value} (direct : (Expr.noneOf values).IsDirect)
    (member : element ∈ values.elements field) : element.isNull = false := by
  cases values with
  | list items =>
      obtain ⟨item, included, rfl⟩ := List.mem_map.mp member
      rw [Value.isNull_compared]
      exact direct item included
  | _ =>
      rw [List.mem_singleton.mp member]
      exact direct

theorem says_noneOf {values : Value} (direct : (Expr.noneOf values).IsDirect)
    (fresh : before.Fresh)
    (compiled : outcome (compile model column (.noneOf values)) before = (.ok condition, after)) :
    condition.Says model column (.noneOf values) before after := by
  obtain ⟨items, _, bound, same⟩ := Binding.steps_of_bind compiled
  cases same
  obtain ⟨kept, freshAfter, elements⟩ := Operand.values_of_compileList fresh bound
  obtain ⟨_, excluded, _, said, truths⟩ := predicates_of_list elements column
  refine ⟨kept, freshAfter, excluded, said, fun scope extended => ?_⟩
  rw [(truths scope extended).2, Truth.not_eq_holds, Scope.membership_eq_fails]
  constructor
  · intro fails
    rcases List.eq_nil_or_concat (values.elements (model.field? column)) with none | ⟨_, last, all⟩
    · exact .inl none
    · have held := (fails last (by simp [all])).1
      exact .inr ⟨held, fun element member => (fails element member).2.2⟩
  · rintro (none | ⟨held, apart⟩) element member
    · rw [none] at member
      cases member
    · -- No element is null, so an unknown equality comes from a column that is null.
      exact ⟨held, isNull_of_direct direct member, apart element member⟩

theorem says_of_compile : ∀ {expr : Expr}, expr.IsDirect → before.Fresh →
    outcome (compile model column expr) before = (.ok condition, after) →
      condition.Says model column expr before after
  | .eq _, _, fresh, compiled => says_eq fresh compiled
  | .compare _ _, _, fresh, compiled => says_compare fresh compiled
  | .between _ _, _, fresh, compiled => says_between fresh compiled
  | .oneOf _, _, fresh, compiled => says_oneOf fresh compiled
  | .noneOf _, direct, fresh, compiled => says_noneOf direct fresh compiled
  | .greatest _ _ _, direct, _, _ => direct.elim

/-- The conditions of a filter say predicates that are all true where the filter
accepts the row. -/
theorem predicates_of_compileAll {filter : Filter} {conditions : List Condition}
    (direct : ∀ entry ∈ filter, entry.2.IsDirect) (fresh : before.Fresh)
    (compiled : outcome (compileAll model filter) before = (.ok conditions, after)) :
    after.Extends before ∧ ∃ predicates : List Predicate,
      conditions.map predicate? = predicates.map some ∧
      ∀ scope : Scope, scope.parameters.Extends after →
        ((∀ predicate ∈ predicates, predicate.truth scope = .holds) ↔
          Filter.Accepts model scope.collation scope.row filter) := by
  induction filter generalizing before conditions with
  | nil =>
      cases compiled
      exact ⟨.refl _, [], rfl, by simp [Filter.Accepts]⟩
  | cons entry rest ih =>
      obtain ⟨column, expr⟩ := entry
      obtain ⟨here, others⟩ := List.forall_mem_cons.mp direct
      obtain ⟨condition, middle, head, compiled⟩ := Binding.steps_of_bind compiled
      obtain ⟨later, left, tail, same⟩ := Binding.steps_of_bind compiled
      cases same
      obtain ⟨keptHere, freshHere, predicate, said, meaning⟩ := says_of_compile here fresh head
      obtain ⟨kept, predicates, saidLater, meanings⟩ := ih others freshHere tail
      refine ⟨kept.trans keptHere, predicate :: predicates, ?_, fun scope extended => ?_⟩
      · rw [List.map_cons, List.map_cons, said, saidLater]
      · rw [List.forall_mem_cons, meaning scope (extended.trans kept), meanings scope extended]
        simp [Filter.Accepts]

theorem clause?_eq_none_iff {filter : Filter} {conditions : List Condition}
    (compiled : outcome (compileAll model filter) before = (.ok conditions, after)) :
    clause? conditions = none ↔ filter = [] := by
  cases filter with
  | nil =>
      cases compiled
      simp [clause?]
  | cons entry rest =>
      obtain ⟨condition, _, _, compiled⟩ := Binding.steps_of_bind compiled
      obtain ⟨later, _, _, same⟩ := Binding.steps_of_bind compiled
      cases same
      simp [clause?]

end Condition

theorem Filter.plain_of_direct : ∀ {filter : Filter}, (∀ entry ∈ filter, entry.2.IsDirect) →
    Filter.Plain filter
  | [], _ => trivial
  | (_, expr) :: rest, direct => by
      obtain ⟨here, others⟩ := List.forall_mem_cons.mp direct
      refine ⟨?_, plain_of_direct others⟩
      cases expr with
      | greatest => exact here.elim
      | _ => trivial

/-- The clause of a filter whose conditions say predicates can be read, and is true where
all of these are. -/
theorem truth?_of_compileAll {filter : Filter} {conditions : List Condition}
    {predicates : List Predicate} (plain : Filter.Plain filter)
    (compiled : outcome (Condition.compileAll model filter) before = (.ok conditions, after))
    (said : conditions.map Condition.predicate? = predicates.map some) (scope : Scope) :
    truth? scope ((Condition.clause? conditions).map (Sql.render .sqlServer)) =
      some (.all (predicates.map (Predicate.truth scope))) := by
  have readable := Condition.readable_body (Condition.readable_compileAll model plain compiled)
  have named : ∀ name ∈ (Condition.body conditions).parameters, Sql.IsLabel name := by
    obtain ⟨count, _, drawn⟩ := Condition.draws_compileAll model filter before
    rw [compiled] at drawn
    have same : (Condition.body conditions).parameters = Parameters.namesFrom before.next count :=
      drawn conditions rfl
    rw [same]
    exact fun name => Parameters.isLabel_of_mem_namesFrom
  exact Condition.truth?_clause scope said readable named

/-- A row passes the clause of a filter exactly if the filter accepts it.  The clause
can be read, and there is none exactly if there is no condition.  The parameters that
are bound before, if any, leave the names free that are made up on the way. -/
theorem clause_holds_iff_accepts {filter : Filter} {conditions : List Condition}
    (direct : ∀ entry ∈ filter, entry.2.IsDirect) (fresh : before.Fresh)
    (compiled : outcome (Condition.compileAll model filter) before = (.ok conditions, after))
    (collation : Collation) (row : String → Value) :
    (Condition.clause? conditions = none ↔ filter = []) ∧
      ∃ truth, truth? { row, parameters := after, collation }
          ((Condition.clause? conditions).map (Sql.render .sqlServer)) = some truth ∧
        (truth = .holds ↔ Filter.Accepts model collation row filter) := by
  obtain ⟨_, predicates, said, meaning⟩ :=
    Condition.predicates_of_compileAll direct fresh compiled
  refine ⟨Condition.clause?_eq_none_iff compiled, _,
    truth?_of_compileAll (Filter.plain_of_direct direct) compiled said _, ?_⟩
  rw [← meaning { row, parameters := after, collation } (.refl after)]
  simp

/-- Whole numbers and texts compared as such, and nothing else. -/
def plainly : Collation where
  equal
    | .int left, .int right => left == right
    | .text left, .text right => left == right
    | _, _ => false
  compare
    | .greater, .int left, .int right => right < left
    | .atLeast, .int left, .int right => right ≤ left
    | .less, .int left, .int right => left < right
    | .atMost, .int left, .int right => left ≤ right
    | .different, .int left, .int right => left != right
    | _, _, _ => false

def wanted : Filter := [
  ("to@[home]", .noneOf (.list [.text "Ada", .text "Bo"])), ("sent", .eq (.bool true)),
  ("weight", .between (.int 1) (.int 5)), ("weight", .compare .different .null),
  ("from", .eq .null)]

/-- A row of `letter` without a sender. -/
def posted : String → Value
  | "to@[home]" => .text "Cy"
  | "sent" => .int 1
  | "weight" => .int 3
  | _ => .null

set_option maxRecDepth 4000 in
theorem posted_passes :
    ∃ conditions after, outcome (Condition.compileAll letter wanted) .empty =
        (.ok conditions, after) ∧
      (Condition.clause? conditions).map (Sql.render .sqlServer) =
        some ("WHERE [to@[home]]] NOT IN (@param1,@param2) AND [sent] = (1) AND " ++
          "[weight] BETWEEN @param3 AND @param4 AND [weight] IS NOT NULL AND [from] IS NULL") ∧
      truth? { row := posted, parameters := after, collation := plainly }
        ((Condition.clause? conditions).map (Sql.render .sqlServer)) = some .holds := by
  have direct : ∀ entry ∈ wanted, entry.2.IsDirect := by
    simp [wanted, Expr.IsDirect, Value.isNull]
  have accepted : Filter.Accepts letter plainly posted wanted := by
    have recipient : letter.field? "to@[home]" = some { name := "to@[home]", type := .string } :=
      rfl
    have sent : letter.field? "sent" = some { name := "sent", type := .boolean } := rfl
    have weight : letter.field? "weight" = some { name := "weight", type := .number } := rfl
    have above : plainly.compare .atLeast (.int 3) (.int 1) = true := rfl
    have below : plainly.compare .atMost (.int 3) (.int 5) = true := rfl
    have flagged : plainly.equal (.int 1) (.int 1) = true := rfl
    have apart : plainly.equal (.text "Cy") (.text "Ada") = false ∧
      plainly.equal (.text "Cy") (.text "Bo") = false := ⟨rfl, rfl⟩
    simp [Filter.Accepts, wanted, Expr.Accepts, Value.elements, Value.compared, Value.isNull,
      Value.truthy, recipient, sent, weight, FieldType.compared, posted, above, below, flagged,
      apart]
  have compiled : outcome (Condition.compileAll letter wanted) .empty = (.ok _, _) := rfl
  obtain ⟨_, truth, read, passes⟩ :=
    clause_holds_iff_accepts direct Parameters.fresh_empty compiled plainly posted
  rw [passes.mpr accepted] at read
  exact ⟨_, _, compiled, rfl, read⟩

end SqlMapper
