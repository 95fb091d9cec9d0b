import SqlMapper.Fragment
import SqlMapper.Proofs.Binding.Documents

namespace SqlMapper

/-! One value in place of a list.

A value that stands where a list is expected is bound as it is, whereas the
element of a list takes the form in which its field holds it.  So the two agree
exactly if the field holds the value as it is.
-/

open Binding (outcome)
open Parameters (nameAt)

variable {field : Field} {value : Value} {parameters after : Parameters}

/-- The field holds the value itself, and not another form of it. -/
def Field.HoldsAsIs (field : Field) (value : Value) : Prop :=
  match field.type with
  | .boolean | .json | .array _ => False
  | .date => ∃ instant, value.instant? = some instant ∧ value = .text instant.stored
  | .string | .text | .number | .point => True

/-- What the operand of a condition comes to: its text or an error, and the
parameters that are bound behind it. -/
def Expr.written (dialect : Dialect) (field : Option Field) (expr : Expr)
    (parameters : Parameters) : Except CompileError String × Parameters :=
  let (fragment, after) := outcome (expr.compileOperand field) parameters
  (fragment.map fun fragment => fragment.sql.render dialect, after)

namespace Json

theorem length_escaped (char : Char) : 1 ≤ (escaped char).length := by
  unfold escaped
  repeat' split
  all_goals simp

theorem length_le_flatMap_escaped (chars : List Char) :
    chars.length ≤ (chars.flatMap escaped).length := by
  induction chars with
  | nil => exact Nat.le_refl _
  | cons char rest ih =>
      have one := length_escaped char
      rw [List.flatMap_cons, List.length_append, List.length_cons]
      omega

theorem quoted_ne (text : String) : quoted text ≠ text := by
  intro same
  have longer := length_le_flatMap_escaped text.toList
  have lengths := congrArg (fun text => text.toList.length) same
  simp only [quoted, String.toList_ofList, List.length_append, List.length_cons] at lengths
  omega

end Json

namespace Value

/-- No value is the text of its own document, since a text is quoted there. -/
theorem compact_ne (value : Value) : Value.text value.toJson.compact ≠ value := by
  cases value with
  | text text =>
      intro same
      exact Json.quoted_ne text (Value.text.inj same)
  | null | bool _ | int _ | float _ | timestamp _ | list _ | json _ => exact nofun

end Value

namespace Operand

theorem stored_eq_self_iff (other : field.type ≠ .boolean) :
    stored field value = .ok value ↔ field.HoldsAsIs value := by
  unfold stored Field.HoldsAsIs
  cases type : field.type with
  | boolean => exact absurd type other
  | json | array _ => simpa using Value.compact_ne value
  | string | text | number | point => simp
  | date =>
      cases read : value.instant? with
      | none => simp
      | some instant => simp [eq_comm]

theorem stored_eq_error_iff :
    (∃ error, stored field value = .error error) ↔
      field.type = .date ∧ value.instant? = none := by
  unfold stored
  cases type : field.type with
  | date => cases read : value.instant? <;> simp
  | string | text | number | boolean | point | json | array _ => simp

end Operand

namespace Parameters

theorem addNamed_inj {name : String} {left right : Value} :
    parameters.addNamed name left = parameters.addNamed name right ↔ left = right := by
  simp [addNamed]

theorem ne_addNamed (parameters : Parameters) (name : String) (value : Value) :
    parameters ≠ parameters.addNamed name value := by
  intro same
  have later := congrArg Parameters.next same
  simp at later

end Parameters

namespace Operand

variable {field : Option Field}

theorem outcome_compileList_single (single : ∀ items, value ≠ .list items)
    (parameters : Parameters) :
    outcome (compileList field value) parameters =
      (.ok [.parameter (nameAt parameters.next)],
        parameters.addNamed (nameAt parameters.next) value) := by
  cases value with
  | list items => exact absurd rfl (single items)
  | null | bool _ | int _ | float _ | text _ | timestamp _ | json _ => rfl

/-- The element of a list is compiled on its own. -/
theorem outcome_compileList_element (field : Option Field) (value : Value)
    (parameters : Parameters) :
    outcome (compileList field (.list [value])) parameters =
      ((outcome (compile field value) parameters).1.map fun operand => [operand],
        (outcome (compile field value) parameters).2) := by
  have listed : compileList field (.list [value]) =
      (compile field value >>= fun operand => pure [operand]) := by
    simp [compileList]
  rw [listed]
  rcases compiled : outcome (compile field value) parameters with ⟨error | operand, after⟩
  · rw [Binding.outcome_bind_error compiled]
    rfl
  · rw [Binding.outcome_bind_ok compiled]
    rfl

theorem outcome_compile_undeclared (given : value.isNull = false) (parameters : Parameters) :
    outcome (compile none value) parameters =
      (.ok (.parameter (nameAt parameters.next)),
        parameters.addNamed (nameAt parameters.next) value) := by
  rw [compile, given]
  rfl

end Operand

namespace Expr

variable {dialect : Dialect} {field : Option Field} {expr : Expr}

theorem written_of_membership {values : Value}
    (membership : expr = .oneOf values ∨ expr = .noneOf values) (parameters : Parameters) :
    expr.written dialect field parameters =
      ((outcome (Operand.compileList field values) parameters).1.map fun operands =>
        (Fragment.list operands).sql.render dialect,
        (outcome (Operand.compileList field values) parameters).2) := by
  have listed : expr.compileOperand field =
      (Operand.compileList field values >>= fun operands => pure (.list operands)) := by
    rcases membership with rfl | rfl <;> rfl
  rw [written, listed]
  rcases compiled : outcome (Operand.compileList field values) parameters with
    ⟨error | operands, after⟩
  · rw [Binding.outcome_bind_error compiled]
    rfl
  · rw [Binding.outcome_bind_ok compiled]
    rfl

/-- A value of its own is bound as it is, whatever the field. -/
theorem written_of_single (membership : expr = .oneOf value ∨ expr = .noneOf value)
    (single : ∀ items, value ≠ .list items) (parameters : Parameters) :
    expr.written dialect field parameters =
      (.ok (dialect.parameter (nameAt parameters.next)),
        parameters.addNamed (nameAt parameters.next) value) := by
  rw [written_of_membership membership, Operand.outcome_compileList_single single]
  simp [Except.map, Fragment.sql, Operand.sql, Sql.separated, Piece.render]

/-- The only element of a list is compiled for the field. -/
theorem written_of_element
    (membership : expr = .oneOf (.list [value]) ∨ expr = .noneOf (.list [value]))
    (parameters : Parameters) :
    expr.written dialect field parameters =
      ((outcome (Operand.compile field value) parameters).1.map fun operand =>
        operand.sql.render dialect,
        (outcome (Operand.compile field value) parameters).2) := by
  rw [written_of_membership membership, Operand.outcome_compileList_element]
  rcases outcome (Operand.compile field value) parameters with ⟨error | operand, after⟩
  · rfl
  · simp [Except.map, Fragment.sql, Sql.separated]

/-- An operand is the bound value itself exactly for a field that holds it as it is. -/
theorem written_eq_bound_iff (given : value.isNull = false)
    (membership : expr = .oneOf (.list [value]) ∨ expr = .noneOf (.list [value]))
    (parameters : Parameters) :
    expr.written dialect field parameters =
        (.ok (dialect.parameter (nameAt parameters.next)),
          parameters.addNamed (nameAt parameters.next) value) ↔
      ∀ declared ∈ field, declared.HoldsAsIs value := by
  rw [written_of_element membership]
  cases field with
  | none =>
      rw [Operand.outcome_compile_undeclared given]
      simp [Except.map, Operand.sql, Piece.render]
  | some declared =>
      by_cases boolean : declared.type = .boolean
      · have unbound := parameters.ne_addNamed (nameAt parameters.next) value
        rw [Operand.outcome_compile_boolean given boolean]
        simp [Field.HoldsAsIs, boolean, unbound]
      · rw [Operand.outcome_compile_stored given boolean]
        simp only [Option.mem_def, Option.some.injEq, forall_eq']
        rw [← Operand.stored_eq_self_iff boolean]
        cases Operand.stored declared value with
        | error error => simp [Except.map]
        | ok held => simp [Except.map, Operand.sql, Piece.render, Parameters.addNamed_inj]

theorem written_eq_error_iff (given : value.isNull = false)
    (membership : expr = .oneOf (.list [value]) ∨ expr = .noneOf (.list [value]))
    (parameters : Parameters) :
    (∃ error, (expr.written dialect field parameters).1 = .error error) ↔
      ∃ declared ∈ field, declared.type = .date ∧ value.instant? = none := by
  rw [written_of_element membership]
  cases field with
  | none =>
      rw [Operand.outcome_compile_undeclared given]
      simp [Except.map]
  | some declared =>
      by_cases boolean : declared.type = .boolean
      · rw [Operand.outcome_compile_boolean given boolean]
        simp [Except.map, boolean]
      · rw [Operand.outcome_compile_stored given boolean]
        simp only [Option.mem_def, Option.some.injEq, exists_eq_left']
        rw [← Operand.stored_eq_error_iff]
        cases Operand.stored declared value <;> simp [Except.map]

end Expr

/-- A value in place of a list is always bound as it is.  As the only element of a list
it fails only where a date is due and it is none, and it comes to the same exactly where there is
no field or the field holds it as it is. -/
theorem single_as_list_iff {value : Value} {membership : Value → Expr}
    (either : membership = .oneOf ∨ membership = .noneOf) (given : value.isNull = false)
    (single : ∀ items, value ≠ .list items) (dialect : Dialect) (field : Option Field)
    (parameters : Parameters) :
    let plain := (membership value).written dialect field parameters
    let listed := (membership (.list [value])).written dialect field parameters
    plain = (.ok (dialect.parameter (nameAt parameters.next)),
        parameters.addNamed (nameAt parameters.next) value) ∧
      ((∃ error, listed.1 = .error error) ↔
        ∃ declared ∈ field, declared.type = .date ∧ value.instant? = none) ∧
      (plain = listed ↔ ∀ declared ∈ field, declared.HoldsAsIs value) := by
  intro plain listed
  have named (values : Value) :
      membership values = .oneOf values ∨ membership values = .noneOf values :=
    either.imp (congrFun · values) (congrFun · values)
  have bound : plain = _ := Expr.written_of_single (named value) single parameters
  refine ⟨bound, Expr.written_eq_error_iff given (named _) parameters, ?_⟩
  rw [bound, eq_comm]
  exact Expr.written_eq_bound_iff given (named _) parameters

def bornField : Field := { name := "born", type := .date }

def activeField : Field := { name := "active", type := .boolean }

def metaField : Field := { name := "meta", type := .json }

/-- A date that is written as it is stored. -/
theorem single_as_list_born :
    let day := Value.text "1940-10-09T00:00:00.000Z"
    (Expr.noneOf day).written .sqlServer (some bornField) .empty =
        (.ok "@param1", Parameters.empty.addNamed "param1" day) ∧
      (Expr.noneOf (.list [day])).written .sqlServer (some bornField) .empty =
        (.ok "@param1", Parameters.empty.addNamed "param1" day) := by
  intro day
  have given : day.isNull = false := rfl
  obtain ⟨bound, _, same⟩ := single_as_list_iff (.inr rfl) given nofun .sqlServer
    (some bornField) .empty
  have held : ∀ declared ∈ some bornField, declared.HoldsAsIs day := by
    intro declared member
    cases member
    exact ⟨_, rfl, rfl⟩
  exact ⟨bound, (same.mpr held).symm.trans bound⟩

/-- The condition that a field of a new statement is among values. -/
def Field.among (field : Field) (values : Value) : Except CompileError String × Parameters :=
  (Expr.oneOf values).written .sqlServer (some field) .empty

/-- A date that is written otherwise is bound in two forms, and a text that is no date is refused
only in a list.  A truth value is bound or stands in the text, and a document is bound as itself
or as its text. -/
theorem single_may_be_unlike_list :
    (bornField.among (.text "1940-10-09") =
        (.ok "@param1", Parameters.empty.addNamed "param1" (.text "1940-10-09")) ∧
      bornField.among (.list [.text "1940-10-09"]) =
        (.ok "@param1",
          Parameters.empty.addNamed "param1" (.text "1940-10-09T00:00:00.000Z")) ∧
      bornField.among (.text "1940-10-09") ≠ bornField.among (.list [.text "1940-10-09"])) ∧
    (bornField.among (.text "soon") =
        (.ok "@param1", Parameters.empty.addNamed "param1" (.text "soon")) ∧
      bornField.among (.list [.text "soon"]) =
        (.error (.invalidDate "born" (.text "soon")), .empty)) ∧
    (activeField.among (.bool true) =
        (.ok "@param1", Parameters.empty.addNamed "param1" (.bool true)) ∧
      activeField.among (.list [.bool true]) = (.ok "1", .empty)) ∧
    (metaField.among (.json (.object [])) =
        (.ok "@param1", Parameters.empty.addNamed "param1" (.json (.object []))) ∧
      metaField.among (.list [.json (.object [])]) =
        (.ok "@param1", Parameters.empty.addNamed "param1" (.text "\x7b\x7d"))) := by
  have plain : bornField.among (.text "1940-10-09") =
    (.ok "@param1", Parameters.empty.addNamed "param1" (.text "1940-10-09")) := rfl
  have listed : bornField.among (.list [.text "1940-10-09"]) =
    (.ok "@param1", Parameters.empty.addNamed "param1" (.text "1940-10-09T00:00:00.000Z")) := rfl
  refine ⟨⟨plain, listed, fun same => ?_⟩, ⟨rfl, rfl⟩, ⟨rfl, rfl⟩, rfl, rfl⟩
  rw [plain, listed] at same
  simp [Parameters.addNamed] at same

end SqlMapper
