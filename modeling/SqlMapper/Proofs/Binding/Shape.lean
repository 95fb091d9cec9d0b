import Mathlib.Data.List.Forall2
import SqlMapper.Proofs.Binding.Outcome

namespace SqlMapper

/-! Inputs of the same shape.

The shape of an input is what remains of it without its data.  Values have the same
shape if both or neither are null and, for a truth value, both count as true or
neither does.  Bindings of two inputs of the same shape make the same thing and bind
the same names, so that only the values under these names tell them apart.
-/

open Binding (outcome)

variable {α β γ : Type} {field : Option Field} {model : Model}

def Value.SameShape (field : Option Field) (left right : Value) : Prop :=
  left.isNull = right.isNull ∧
    ∀ declared ∈ field, declared.type = .boolean → left.truthy = right.truthy

/-- Lists with elements of the same shape one by one.  A value that stands for a list
of its own is bound whatever it is. -/
def Value.SameElements (field : Option Field) : Value → Value → Prop
  | .list left, .list right => List.Forall₂ (SameShape field) left right
  | .list _, _ | _, .list _ => False
  | _, _ => True

mutual

def Expr.SameShape (model : Model) (field : Option Field) : Expr → Expr → Prop
  | .eq left, .eq right => left.SameShape field right
  | .compare comparison left, .compare other right =>
    comparison = other ∧ left.SameShape field right
  | .between low high, .between otherLow otherHigh =>
    low.SameShape field otherLow ∧ high.SameShape field otherHigh
  | .oneOf left, .oneOf right | .noneOf left, .noneOf right => left.SameElements field right
  | .greatest aggregated source none, .greatest otherAggregated otherSource none =>
    aggregated = otherAggregated ∧ source = otherSource
  | .greatest aggregated source (some left), .greatest otherAggregated otherSource (some right) =>
    aggregated = otherAggregated ∧ source = otherSource ∧ Filter.SameShape model left right
  | _, _ => False

/-- Conditions of the same shape on the same fields, one by one. -/
def Filter.SameShape (model : Model) : List (String × Expr) → List (String × Expr) → Prop
  | [], [] => True
  | (name, left) :: lefts, (other, right) :: rights =>
    name = other ∧ left.SameShape model (model.field? name) right ∧
      Filter.SameShape model lefts rights
  | _, _ => False

end

/-- Values of the same shape under the same keys, in the order in which they were
set. -/
def Record.SameShape (model : Model) (left right : Record) : Prop :=
  List.Forall₂
    (fun entry other => entry.1 = other.1 ∧ entry.2.SameShape (model.field? entry.1) other.2)
    left.entries right.entries

/-- Parameters that no statement text tells apart. -/
structure Parameters.Alike (left right : Parameters) : Prop where
  names : left.names = right.names
  next : left.next = right.next

/-- If both succeed, two bindings make the same thing and bind the same names. -/
def Binding.Alike (left right : Binding α) : Prop :=
  ∀ ⦃before before' after after' result result'⦄, before.Alike before' →
    outcome left before = (.ok result, after) → outcome right before' = (.ok result', after') →
      result = result' ∧ after.Alike after'

namespace Binding.Alike

theorem pure (value : α) : Alike (Pure.pure value) (Pure.pure value) := by
  intro before before' after after' result result' alike done done'
  cases done
  cases done'
  exact ⟨rfl, alike⟩

theorem of_throw_left (error : CompileError) (right : Binding α) :
    Alike (MonadExcept.throw error) right := by
  intro before before' after after' result result' _ done
  cases done

theorem of_throw_right (left : Binding α) (error : CompileError) :
    Alike left (MonadExcept.throw error) := by
  intro before before' after after' result result' _ _ done
  cases done

theorem bind {left right : Binding α} {next next' : α → Binding β} (first : Alike left right)
    (second : ∀ value, Alike (next value) (next' value)) :
    Alike (left >>= next) (right >>= next') := by
  intro before before' after after' result result' alike done done'
  obtain ⟨value, middle, ran, rest⟩ := steps_of_bind done
  obtain ⟨value', middle', ran', rest'⟩ := steps_of_bind done'
  obtain ⟨same, alike⟩ := first alike ran ran'
  subst same
  exact second value alike rest rest'

theorem mapM {related : γ → γ → Prop} {lefts rights : List γ} {each : γ → Binding α}
    (pairs : List.Forall₂ related lefts rights)
    (alike : ∀ left right, related left right → Alike (each left) (each right)) :
    Alike (lefts.mapM each) (rights.mapM each) := by
  induction pairs with
  | nil => exact pure []
  | cons head _ ih =>
      rw [List.mapM_cons, List.mapM_cons]
      exact (alike _ _ head).bind fun result => ih.bind fun results => pure (result :: results)

theorem complete {left right : Binding α} {result result' : α} {after after' : Parameters}
    (alike : Alike left right) (done : left.complete .empty = .ok (result, after))
    (done' : right.complete .empty = .ok (result', after')) :
    result = result' ∧ after.Alike after' :=
  alike ⟨rfl, rfl⟩ (outcome_of_complete done) (outcome_of_complete done')

end Binding.Alike

theorem Operand.alike_bind (left right : Value) : Binding.Alike (bind left) (bind right) := by
  intro before before' after after' operand operand' alike done done'
  cases done
  cases done'
  have made : Parameters.nameAt before.next = Parameters.nameAt before'.next := by
    rw [alike.next]
  refine ⟨congrArg _ made, ?_, congrArg (· + 1) alike.next⟩
  rw [Parameters.names_addNamed, Parameters.names_addNamed, alike.names, made]

theorem Operand.alike_compile {left right : Value} (same : left.SameShape field right) :
    Binding.Alike (compile field left) (compile field right) := by
  obtain ⟨absent, truth⟩ := same
  unfold compile
  rw [absent]
  split
  · exact .pure _
  · cases field with
    | none => exact alike_bind left right
    | some field =>
        dsimp only
        split
        · next boolean =>
          rw [truth field rfl boolean]
          exact .pure _
        · cases stored field left with
          | error error => exact .of_throw_left error _
          | ok held =>
              cases stored field right with
              | error error => exact .of_throw_right _ error
              | ok other => exact alike_bind held other

theorem Operand.alike_compileList {left right : Value} (same : left.SameElements field right) :
    Binding.Alike (compileList field left) (compileList field right) := by
  cases left <;> cases right
  all_goals first
    | exact (same : False).elim
    | exact (alike_bind _ _).bind fun operand => .pure [operand]
    | exact .mapM same fun _ _ => alike_compile

namespace Condition

mutual

theorem alike_compile (model : Model) (column : String) : ∀ {left right : Expr},
    left.SameShape model (model.field? column) right →
      Binding.Alike (compile model column left) (compile model column right)
  | .eq _, .eq _, same => (Operand.alike_compile same).bind fun _ => .pure _
  | .compare comparison _, .compare _ _, same => by
      obtain ⟨rfl, same⟩ := same
      exact (Operand.alike_compile same).bind fun _ => .pure _
  | .between _ _, .between _ _, same =>
      (Operand.alike_compile same.1).bind fun _ =>
        (Operand.alike_compile same.2).bind fun _ => .pure _
  | .oneOf _, .oneOf _, same | .noneOf _, .noneOf _, same =>
      (Operand.alike_compileList same).bind fun _ => .pure _
  | .greatest _ _ none, .greatest _ _ none, same => by
      obtain ⟨rfl, rfl⟩ := same
      exact .pure _
  | .greatest _ _ (some left), .greatest _ _ (some right), same => by
      obtain ⟨rfl, rfl, same⟩ := same
      exact (alike_compileAll model same).bind fun _ => .pure _

theorem alike_compileAll (model : Model) : ∀ {left right : List (String × Expr)},
    Filter.SameShape model left right →
      Binding.Alike (compileAll model left) (compileAll model right)
  | [], [], _ => .pure []
  | (_, _) :: _, (_, _) :: _, same => by
      obtain ⟨rfl, same, others⟩ := same
      exact (alike_compile model _ same).bind fun _ =>
        (alike_compileAll model others).bind fun _ => .pure _

end

end Condition

/-- Records of the same shape set the same fields to values of the same shape. -/
theorem Model.settable_sameShape {left right : Record} (same : Record.SameShape model left right) :
    List.Forall₂ (fun entry other => entry.1 = other.1 ∧ entry.2.SameShape (some entry.1) other.2)
      (model.settable left) (model.settable right) := by
  unfold Record.SameShape at same
  unfold settable
  generalize left.entries = lefts at same ⊢
  generalize right.entries = rights at same ⊢
  induction same with
  | nil => exact .nil
  | @cons entry other _ _ here _ ih =>
      obtain ⟨name, value⟩ := entry
      obtain ⟨_, value'⟩ := other
      obtain ⟨rfl, here⟩ := here
      cases key : model.isKey name with
      | true => simpa [key] using ih
      | false =>
          cases declared : model.field? name with
          | none => simpa [key, declared] using ih
          | some field =>
              rw [declared] at here
              simpa [key, declared, here] using ih

theorem Model.alike_assignments {left right : Record} (same : Record.SameShape model left right) :
    Binding.Alike (model.assignments left) (model.assignments right) := by
  refine .mapM (settable_sameShape same) ?_
  rintro ⟨field, value⟩ ⟨_, other⟩ ⟨rfl, same⟩
  exact (Operand.alike_compile same).bind fun _ => .pure _

end SqlMapper
