import SqlMapper.Proofs.Binding.Outcome
import SqlMapper.Proofs.Entries

namespace SqlMapper

/-! What columns hold.

The content of a field for a value is what its column holds once the value has
been written.  Each assignment made of a record holds the content of a field
for the value that the record has.
-/

open Binding (outcome)

variable {parameters after : Parameters} {field : Field} {value : Value}

def Operand.held (parameters : Parameters) : Operand → Value
  | .null => .null
  | .bit value => .int (if value then 1 else 0)
  | .parameter name => (parameters.get? name).getD .null

def Field.content (field : Field) (value : Value) : Except CompileError Value :=
  ((Operand.compile (some field) value).complete .empty).map fun (operand, parameters) =>
    operand.held parameters

namespace Field

theorem content_null (absent : value.isNull = true) (field : Field) :
    field.content value = .ok .null := by
  rw [content, Binding.complete_of_ok (Operand.outcome_compile_null absent (some field))]
  rfl

theorem content_boolean (given : value.isNull = false) (boolean : field.type = .boolean) :
    field.content value = .ok (.int (if value.truthy then 1 else 0)) := by
  rw [content, Binding.complete_of_ok (Operand.outcome_compile_boolean given boolean)]
  rfl

theorem content_stored (given : value.isNull = false) (other : field.type ≠ .boolean) :
    field.content value = Operand.stored field value := by
  have compiled := Operand.outcome_compile_stored given other .empty
  cases stored : Operand.stored field value with
  | error error =>
      rw [stored] at compiled
      rw [content, Binding.complete_of_error compiled]
      rfl
  | ok held =>
      rw [stored] at compiled
      have found := Parameters.fresh_empty.get?_add held
      rw [content, Binding.complete_of_ok compiled]
      simp [Except.map, Operand.held, found]

end Field

/-- An operand holds the content of its field, also beside parameters that are
bound later. -/
theorem Operand.compile_holds {operand : Operand} (fresh : parameters.Fresh)
    (compiled : outcome (compile (some field) value) parameters = (.ok operand, after)) :
    after.Extends parameters ∧ after.Fresh ∧
      ∀ later, later.Extends after → field.content value = .ok (operand.held later) := by
  cases given : value.isNull with
  | true =>
      rw [outcome_compile_null given] at compiled
      cases compiled
      exact ⟨.refl _, fresh, fun later _ => field.content_null given⟩
  | false =>
      by_cases boolean : field.type = .boolean
      · rw [outcome_compile_boolean given boolean] at compiled
        cases compiled
        exact ⟨.refl _, fresh, fun later _ => Field.content_boolean given boolean⟩
      · rw [outcome_compile_stored given boolean] at compiled
        cases stored : Operand.stored field value with
        | error error => simp [stored] at compiled
        | ok held =>
            rw [stored] at compiled
            cases compiled
            refine ⟨Parameters.extends_addNamed _ _ _, fresh.add held, ?_⟩
            intro later extended
            have found := Parameters.get?_of_extends extended (fresh.get?_add held)
            rw [Field.content_stored given boolean, stored, Operand.held, found]
            rfl

theorem Assignment.bound_holds {entries : List (Field × Value)} {assignments : List Assignment}
    (fresh : parameters.Fresh)
    (compiled : outcome (entries.mapM fun (field, value) => do
      return { column := field.name, operand := ← Operand.compile (some field) value })
        parameters = (.ok assignments, after)) :
    after.Extends parameters ∧ after.Fresh ∧ ∀ later, later.Extends after →
      ∀ assignment ∈ assignments, ∃ entry ∈ entries, assignment.column = entry.1.name ∧
        entry.1.content entry.2 = .ok (assignment.operand.held later) := by
  induction entries generalizing parameters assignments with
  | nil =>
      cases compiled
      exact ⟨.refl _, fresh, fun _ _ _ member => absurd member List.not_mem_nil⟩
  | cons entry rest ih =>
      obtain ⟨field, value⟩ := entry
      rw [List.mapM_cons] at compiled
      obtain ⟨assignment, middle, head, compiled⟩ := Binding.steps_of_bind compiled
      obtain ⟨operand, bound, first, same⟩ := Binding.steps_of_bind head
      cases same
      obtain ⟨others, left, tail, same⟩ := Binding.steps_of_bind compiled
      cases same
      obtain ⟨grown, free, holds⟩ := Operand.compile_holds fresh first
      obtain ⟨grownAgain, freeAgain, holdsAgain⟩ := ih free tail
      refine ⟨grownAgain.trans grown, freeAgain, ?_⟩
      intro later extended assignment member
      rcases List.mem_cons.mp member with same | member
      · subst same
        exact ⟨_, List.mem_cons_self, rfl, holds later (extended.trans grownAgain)⟩
      · obtain ⟨entry, included, holding⟩ := holdsAgain later extended assignment member
        exact ⟨entry, List.mem_cons_of_mem _ included, holding⟩

/-- A settable field is what its name looks up, and the record has its value. -/
theorem Model.get?_of_settable {model : Model} {record : Record}
    (settable : (field, value) ∈ model.settable record) :
    model.field? field.name = some field ∧ record.get? field.name = some value := by
  obtain ⟨⟨name, held⟩, member, chosen⟩ := List.mem_filterMap.mp settable
  dsimp only at chosen
  split at chosen
  · cases chosen
  · obtain ⟨found, declared, same⟩ := Option.map_eq_some_iff.mp chosen
    cases same
    have named : field.name = name := by
      simpa using List.find?_some (p := fun field : Field => field.name == name) declared
    rw [named]
    exact ⟨declared, Record.get?_of_mem member⟩

theorem Model.assignments_hold {model : Model} {record : Record} {assignments : List Assignment}
    (compiled : (model.assignments record).complete .empty = .ok (assignments, parameters)) :
    ∀ later, later.Extends parameters → ∀ assignment ∈ assignments,
      ∃ entry ∈ model.settable record, assignment.column = entry.1.name ∧
        entry.1.content entry.2 = .ok (assignment.operand.held later) :=
  (Assignment.bound_holds Parameters.fresh_empty (Binding.outcome_of_complete compiled)).2.2

end SqlMapper
