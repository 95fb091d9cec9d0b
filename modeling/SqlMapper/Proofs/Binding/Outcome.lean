import SqlMapper.Prepared
import SqlMapper.Proofs.Binding.Growth

namespace SqlMapper

/-! How a binding runs.

`Binding.outcome` is the result of a binding that starts with given parameters,
together with the parameters that it leaves.  The lemmas take it through
sequencing and through the compilation of a single operand.
-/

variable {α β : Type} {parameters after : Parameters} {field : Field} {value : Value}

def Binding.outcome (binding : Binding α) (parameters : Parameters) :
    Except CompileError α × Parameters :=
  ExceptT.run binding |>.run parameters

namespace Binding

theorem outcome_bind_ok {binding : Binding α} {next : α → Binding β} {value : α}
    (done : outcome binding parameters = (.ok value, after)) :
    outcome (binding >>= next) parameters = outcome (next value) after := by
  simp only [outcome, ExceptT.run_bind, StateT.run_bind] at done ⊢
  rw [done]
  rfl

theorem outcome_bind_error {binding : Binding α} {next : α → Binding β} {error : CompileError}
    (failed : outcome binding parameters = (.error error, after)) :
    outcome (binding >>= next) parameters = (.error error, after) := by
  simp only [outcome, ExceptT.run_bind, StateT.run_bind] at failed ⊢
  rw [failed]
  rfl

theorem steps_of_bind {binding : Binding α} {next : α → Binding β} {result : β}
    (done : outcome (binding >>= next) parameters = (.ok result, after)) :
    ∃ value middle, outcome binding parameters = (.ok value, middle) ∧
      outcome (next value) middle = (.ok result, after) := by
  rcases first : outcome binding parameters with ⟨error | value, middle⟩
  · rw [outcome_bind_error first] at done
    cases done
  · rw [outcome_bind_ok first] at done
    exact ⟨value, middle, rfl, done⟩

theorem complete_of_ok {binding : Binding α} {value : α}
    (done : outcome binding parameters = (.ok value, after)) :
    binding.complete parameters = .ok (value, after) := by
  unfold outcome at done
  rw [complete, done]

theorem complete_of_error {binding : Binding α} {error : CompileError}
    (failed : outcome binding parameters = (.error error, after)) :
    binding.complete parameters = .error error := by
  unfold outcome at failed
  rw [complete, failed]

theorem outcome_of_complete {binding : Binding α} {value : α}
    (done : binding.complete parameters = .ok (value, after)) :
    outcome binding parameters = (.ok value, after) := by
  rcases ended : outcome binding parameters with ⟨error | found, left⟩
  · rw [complete_of_error ended] at done
    cases done
  · rw [complete_of_ok ended] at done
    cases done
    rfl

end Binding

namespace Operand

theorem outcome_compile_null (given : value.isNull = true) (field : Option Field) :
    Binding.outcome (compile field value) parameters = (.ok .null, parameters) := by
  unfold compile
  rw [if_pos given]
  rfl

theorem outcome_compile_boolean (given : value.isNull = false) (boolean : field.type = .boolean) :
    Binding.outcome (compile (some field) value) parameters =
      (.ok (.bit value.truthy), parameters) := by
  simp only [compile, given, boolean]
  rfl

theorem outcome_compile_stored (given : value.isNull = false) (other : field.type ≠ .boolean)
    (parameters : Parameters) :
    Binding.outcome (compile (some field) value) parameters =
      match stored field value with
      | .ok held =>
        (.ok (.parameter (Parameters.nameAt parameters.next)),
          parameters.addNamed (Parameters.nameAt parameters.next) held)
      | .error error => (.error error, parameters) := by
  simp only [compile, given, if_neg other]
  cases stored field value <;> rfl

end Operand

/-- The field binds the value as a text of its own, after any parameters. -/
def Field.BindsText (field : Field) (value : Value) (text : String) : Prop :=
  ∀ parameters, Binding.outcome (Operand.compile (some field) value) parameters =
    (.ok (.parameter (Parameters.nameAt parameters.next)),
      parameters.addNamed (Parameters.nameAt parameters.next) (.text text))

end SqlMapper
