import SqlMapper.Proofs.Statement.Placeholders
import SqlMapper.Proofs.Statement.Texts
import SqlMapper.Proofs.Store.Saving

namespace SqlMapper

/-! Which fields of a record are written.

They are those that the model declares and that are not the key, in the order of the
record.  Their values are compiled one after another, each behind the parameters of
those before it.
-/

open Binding (outcome)

variable {name : String} {model : Model} {field : Field} {value : Value} {record : Record}
  {entries : List (String × Value)} {before after parameters : Parameters}
  {assignments : List Assignment} {error : CompileError}

namespace Model

/-- A declared field that is not the key, neither as the column in which the key is
stored nor as the field that is marked. -/
def Assigns (model : Model) (name : String) : Prop :=
  (∃ field ∈ model.fields, field.name = name) ∧ name ≠ model.key ∧
    ∀ field ∈ model.fields, field.primaryKey = true → field.name ≠ name

instance (name : String) : Decidable (model.Assigns name) :=
  inferInstanceAs (Decidable (_ ∧ _ ∧ _))

def assigned (model : Model) (record : Record) : List (String × Value) :=
  record.entries.filter fun entry => model.Assigns entry.1

end Model

namespace Assignment

/-- The values of fields are compiled, each behind the parameters that the ones before
it have left. -/
inductive Compiled (model : Model) :
    List (String × Value) → Parameters → List Assignment → Parameters → Prop where
  | nil {parameters : Parameters} : Compiled model [] parameters [] parameters
  | cons {name : String} {field : Field} {value : Value} {rest : List (String × Value)}
      {operand : Operand} {others : List Assignment} {before middle after : Parameters}
      (declared : model.field? name = some field)
      (head : outcome (Operand.compile (some field) value) before = (.ok operand, middle))
      (tail : Compiled model rest middle others after) :
      Compiled model ((name, value) :: rest) before ({ column := name, operand } :: others) after

/-- Some value does not compile, and those before it do. -/
inductive Refused (model : Model) : List (String × Value) → Parameters → CompileError → Prop where
  | head {name : String} {field : Field} {value : Value} {rest : List (String × Value)}
      {before after : Parameters} {error : CompileError}
      (declared : model.field? name = some field)
      (failed : outcome (Operand.compile (some field) value) before = (.error error, after)) :
      Refused model ((name, value) :: rest) before error
  | tail {name : String} {field : Field} {value : Value} {rest : List (String × Value)}
      {operand : Operand} {before middle : Parameters} {error : CompileError}
      (declared : model.field? name = some field)
      (head : outcome (Operand.compile (some field) value) before = (.ok operand, middle))
      (later : Refused model rest middle error) : Refused model ((name, value) :: rest) before error

theorem compiled_or_refused (model : Model) :
    ∀ {entries : List (String × Value)} (before : Parameters),
      (∀ entry ∈ entries, ∃ field, model.field? entry.1 = some field) →
        (∃ assignments after, Compiled model entries before assignments after) ∨
          ∃ error, Refused model entries before error
  | [], before, _ => .inl ⟨[], before, .nil⟩
  | (name, value) :: rest, before, declared => by
      obtain ⟨⟨field, found⟩, declared⟩ := List.forall_mem_cons.mp declared
      rcases head : outcome (Operand.compile (some field) value) before with
        ⟨error | operand, middle⟩
      · exact .inr ⟨error, .head found head⟩
      · rcases compiled_or_refused model middle declared with ⟨others, after, tail⟩ | ⟨error, later⟩
        · exact .inl ⟨_, after, .cons found head tail⟩
        · exact .inr ⟨error, .tail found head later⟩

theorem Compiled.columns (compiled : Compiled model entries before assignments after) :
    assignments.map (·.column) = entries.map (·.1) := by
  induction compiled with
  | nil => rfl
  | cons _ _ _ ih => rw [List.map_cons, List.map_cons, ih]

end Assignment

/-- The assignment of a value to a field. -/
def Field.assignment (field : Field) (value : Value) : Binding Assignment := do
  return { column := field.name, operand := ← Operand.compile (some field) value }

theorem Field.outcome_assignment {operand : Operand}
    (compiled : outcome (Operand.compile (some field) value) before = (.ok operand, after)) :
    outcome (field.assignment value) before =
      (.ok { column := field.name, operand }, after) := by
  rw [assignment, Binding.outcome_bind_ok compiled]
  rfl

namespace Model

theorem assigns_iff :
    model.Assigns name ↔ model.isKey name = false ∧ ∃ field, model.field? name = some field := by
  have declared : (∃ field, model.field? name = some field) ↔
      ∃ field ∈ model.fields, field.name = name := by
    rw [← Option.isSome_iff_exists]
    simp [field?]
  have regular : model.isKey name = false ↔ name ≠ model.key ∧
      ∀ field ∈ model.fields, field.primaryKey = true → field.name ≠ name := by
    simp [isKey]
  rw [Assigns, declared, regular, and_comm]

theorem settable_eq (model : Model) (record : Record) :
    model.settable record = (model.assigned record).filterMap fun entry =>
      (model.field? entry.1).map fun field => (field, entry.2) := by
  unfold settable assigned
  rw [List.filterMap_filter]
  congr 1
  funext ⟨name, value⟩
  cases isKey : model.isKey name <;> cases declared : model.field? name <;>
    simp [assigns_iff, isKey, declared]

theorem nodup_assigned (model : Model) (record : Record) :
    ((model.assigned record).map (·.1)).Nodup :=
  (List.filter_sublist.map _).nodup record.distinct

theorem declared_of_assigned (model : Model) (record : Record) :
    ∀ entry ∈ model.assigned record, ∃ field, model.field? entry.1 = some field := by
  intro entry member
  have assigns : model.Assigns entry.1 := by simpa using (List.mem_filter.mp member).2
  exact (assigns_iff.mp assigns).2

/-- The assignments of entries, one after another. -/
def binding (model : Model) (entries : List (String × Value)) : Binding (List Assignment) :=
  (entries.filterMap fun entry => (model.field? entry.1).map fun field => (field, entry.2)).mapM
    fun (field, value) => field.assignment value

theorem assignments_eq (model : Model) (record : Record) :
    model.assignments record = model.binding (model.assigned record) := by
  rw [assignments, settable_eq]
  rfl

theorem binding_cons (declared : model.field? name = some field) (value : Value) :
    model.binding ((name, value) :: entries) = field.assignment value >>= fun assignment =>
      model.binding entries >>= fun others => pure (assignment :: others) := by
  simp only [binding, List.filterMap_cons, declared, Option.map_some, List.mapM_cons]

theorem outcome_binding (compiled : Assignment.Compiled model entries before assignments after) :
    outcome (model.binding entries) before = (.ok assignments, after) := by
  induction compiled with
  | nil => rfl
  | cons declared head tail ih =>
      have named := List.find?_some declared
      rw [beq_iff_eq] at named
      rw [binding_cons declared, Binding.outcome_bind_ok (Field.outcome_assignment head),
        Binding.outcome_bind_ok ih, named]
      rfl

theorem outcome_binding_refused (refused : Assignment.Refused model entries before error) :
    ∃ after, outcome (model.binding entries) before = (.error error, after) := by
  induction refused with
  | @head _ _ _ _ _ after _ declared failed =>
      refine ⟨after, ?_⟩
      rw [binding_cons declared]
      exact Binding.outcome_bind_error (Binding.outcome_bind_error failed)
  | tail declared head later ih =>
      obtain ⟨after, failed⟩ := ih
      refine ⟨after, ?_⟩
      rw [binding_cons declared, Binding.outcome_bind_ok (Field.outcome_assignment head)]
      exact Binding.outcome_bind_error failed

theorem complete_assignments
    (compiled : Assignment.Compiled model (model.assigned record) .empty assignments parameters) :
    (model.assignments record).complete .empty = .ok (assignments, parameters) := by
  rw [assignments_eq]
  exact Binding.complete_of_ok (outcome_binding compiled)

theorem complete_assignments_refused
    (refused : Assignment.Refused model (model.assigned record) .empty error) :
    (model.assignments record).complete .empty = .error error := by
  rw [assignments_eq]
  obtain ⟨after, failed⟩ := outcome_binding_refused refused
  exact Binding.complete_of_error failed

end Model

/-- Inserting and updating write the assigned fields of a record, each of them once and
in the order of the record, with what their values compile to.  This is so of every
record, however it has been set, erased from and read: none holds a field twice.  If a
value does not compile, neither has a result.  Without such fields a row of defaults is
inserted and nothing is updated. -/
theorem writes_assigned (registry : Registry) (name : String) {model : Model}
    (known : registry.model name = .ok model) (record : Record) :
    ((model.assigned record).map (·.1)).Nodup ∧
    ((∃ assignments parameters,
        Assignment.Compiled model (model.assigned record) .empty assignments parameters ∧
        assignments.map (·.column) = (model.assigned record).map (·.1) ∧
        (∃ inserted, Prepared.insert registry name record = .ok inserted ∧
          inserted.text = Statement.insertText (registry.tableOf model) assignments ∧
            inserted.parameters = parameters) ∧
        ∀ key, ∃ updated, Prepared.update registry name key record = .ok updated ∧
          updated.text = Statement.updateText (registry.tableOf model) model.key assignments ∧
            updated.parameters = parameters.addNamed Statement.keyParameter key) ∨
      ∃ error, Assignment.Refused model (model.assigned record) .empty error ∧
        Prepared.insert registry name record = .error error ∧
          ∀ key, Prepared.update registry name key record = .error error) ∧
    (model.assigned record = [] →
      (Prepared.insert registry name record).map Prepared.text =
          .ok ("INSERT INTO " ++ (registry.tableOf model).text ++
            " DEFAULT VALUES;\nSELECT CAST(SCOPE_IDENTITY() AS int) AS insertId;") ∧
        ∀ key, (Prepared.update registry name key record).map Prepared.text =
          .ok "SELECT @id AS pkid;") := by
  refine ⟨model.nodup_assigned record, ?_, fun none => ?_⟩
  · rcases Assignment.compiled_or_refused model .empty (model.declared_of_assigned record) with
      ⟨assignments, parameters, compiled⟩ | ⟨error, refused⟩
    · have bound := Model.complete_assignments compiled
      exact .inl ⟨assignments, parameters, compiled, compiled.columns,
        ⟨_, Prepared.insert_eq_ok known bound, Statement.text_insert _ _, rfl⟩,
        fun key => ⟨_, Prepared.update_eq_ok known key bound, Statement.text_update _ _ _, rfl⟩⟩
    · have bound := Model.complete_assignments_refused refused
      exact .inr ⟨error, refused, Prepared.insert_eq_error known bound,
        fun key => Prepared.update_eq_error known key bound⟩
  · have bound : (model.assignments record).complete .empty = .ok ([], .empty) :=
      Model.complete_assignments (none ▸ .nil)
    refine ⟨?_, fun key => ?_⟩
    · rw [Prepared.insert_eq_ok known bound]
      exact congrArg Except.ok ((Statement.text_insert _ _).trans (String.append_assoc ..))
    · rw [Prepared.update_eq_ok known key bound]
      exact congrArg Except.ok (Statement.text_update _ _ _)

/-- The fields of a letter out of their order, between the key and a field that the
model does not declare. -/
def strayLetter : Record :=
  (((Record.empty.set "sent" (.int 0)).set "stamp" (.int 3)).set "id" (.int 7)).set
    "to@[home]" (.text "Ada")

theorem writes_assigned_letter :
    (letter.assigned strayLetter).map (·.1) = ["sent", "to@[home]"] ∧
    ((letter.assigned strayLetter).map (·.1)).Nodup ∧
    ∃ assignments parameters,
      Assignment.Compiled letter (letter.assigned strayLetter) .empty assignments parameters ∧
      ∃ updated, Prepared.update letters letter.name (.int 7) strayLetter = .ok updated ∧
        updated.text = Statement.updateText (letters.tableOf letter) "id" assignments ∧
        updated.text = "UPDATE [dbo].[Letter@]]]\nSET [sent]=(0),[to@[home]]]=(@param1)\n" ++
          "WHERE [id] = (@id);\nSELECT @id AS pkid;" := by
  obtain ⟨distinct, written, _⟩ := writes_assigned letters letter.name rfl strayLetter
  refine ⟨by decide, distinct, ?_⟩
  rcases written with ⟨assignments, parameters, compiled, _, _, updates⟩ | ⟨error, _, failed, _⟩
  · obtain ⟨updated, done, text, _⟩ := updates (.int 7)
    refine ⟨assignments, parameters, compiled, updated, done, text, ?_⟩
    cases done
    rfl
  · cases failed

end SqlMapper
