import SqlMapper.Proofs.Store.Decoding
import SqlMapper.Proofs.Store.Following

namespace SqlMapper

/-! The key under its second name.

Every record that a store hands out has its key under `id` too.  A field that the
model itself calls `id` gives way to it, and all other fields are left alone.
-/

open Store StoreOperation

variable {σ : Type} {registry : Registry} {name : String} {model : Model} {field : Field}

/-- A value of a field as a record shows it. -/
def Field.shown (field : Field) (value : Value) : Value :=
  if field.type = .boolean ∧ value.isNull = false then .bool value.truthy else value

theorem Model.decoded_eq_shown (declared : model.field? name = some field) :
    model.decoded name = field.shown := by
  funext value
  simp [decoded, Field.shown, declared]

theorem Record.get?_ofRow_alias (model : Model) (row : Row) :
    (ofRow model row).get? keyAlias = some ((row.get? model.key).getD .null) :=
  get?_set_self _ _ _

theorem Model.ne_key_of_regular (regular : model.isKey name = false) : name ≠ model.key := by
  rintro rfl
  simp [isKey] at regular

/-- A field that is no key is shown as its column has it, and it comes back from
saving as it was.  If its name is `id` it is the key instead, both times. -/
theorem mirror_keeps_fields (known : registry.model name = .ok model)
    (declared : model.field? field.name = some field)
    (regular : model.isKey field.name = false) :
    (∀ row, (Record.ofRow model row).get? field.name =
      if field.name = keyAlias then some ((row.get? model.key).getD .null)
      else (row.get? field.name).map field.shown) ∧
    ∀ (record returned : Record) (server : Server commands σ) (state : σ),
      (ending (save registry name record) server state).value = .ok returned →
        returned.get? field.name =
          if field.name = keyAlias then returned.get? model.key else record.get? field.name := by
  constructor
  · intro row
    split
    · next same => rw [same, Record.get?_ofRow_alias]
    · next other => rw [Record.get?_ofRow model row other, Model.decoded_eq_shown declared]
  · intro record returned server state saved
    obtain ⟨key, keyed⟩ := keyed_of_saved known saved
    split
    · next same => rw [same, keyed.mirror, keyed.column]
    · next other => exact keyed.others field.name (Model.ne_key_of_regular regular) other

def doneField : Field := { name := "done", type := .boolean }

def tagField : Field := { name := "id", type := .string }

def task : Model where
  name := "Task"
  fields := [{ name := "taskId", type := .number, primaryKey := true }, doneField, tagField]
  key := "taskId"

def tasks : Registry :=
  { settings := {}, table := SortedTable.empty.insert task.name task }

def taskRow (done tag : Value) : Row :=
  ((SortedTable.empty.insert "taskId" (.int 7)).insert "done" done).insert "id" tag

def taskRecord (done tag : Value) : Record :=
  ((Record.empty.set "taskId" (.int 7)).set "done" done).set "id" tag

/-- The row is there, and writing reports its key. -/
def taskAnswers : List Answer :=
  [.ok [reporting "cnt" 1], .ok [reporting "pkid" 7]]

theorem mirror_keeps_done :
    tasks.model "Task" = .ok task ∧ task.field? doneField.name = some doneField ∧
      task.isKey doneField.name = false ∧
      (∀ row, (Record.ofRow task row).get? "done" = (row.get? "done").map doneField.shown) ∧
      ∃ returned,
        (ending (save tasks "Task" (taskRecord (.int 1) (.text "abc"))) scriptedStore
          taskAnswers).value = .ok returned ∧
        returned.get? "done" = some (.int 1) := by
  have keeps :=
    @mirror_keeps_fields (List Answer) tasks "Task" task doneField rfl rfl (by decide)
  have saved : (ending (save tasks "Task" (taskRecord (.int 1) (.text "abc"))) scriptedStore
      taskAnswers).value = .ok _ := rfl
  exact ⟨rfl, rfl, by decide, keeps.1, _, saved, keeps.2 _ _ _ _ saved⟩

/-- The text in the field `id` is neither shown nor returned. -/
theorem mirror_replaces_tag :
    tasks.model "Task" = .ok task ∧ task.field? tagField.name = some tagField ∧
      task.isKey tagField.name = false ∧
      (taskRow (.int 1) (.text "abc")).get? "id" = some (.text "abc") ∧
      (Record.ofRow task (taskRow (.int 1) (.text "abc"))).get? "id" = some (.int 7) ∧
      (taskRecord (.int 1) (.text "abc")).get? "id" = some (.text "abc") ∧
      ∃ returned,
        (ending (save tasks "Task" (taskRecord (.int 1) (.text "abc"))) scriptedStore
          taskAnswers).value = .ok returned ∧
        returned.get? "id" = some (.int 7) :=
  ⟨rfl, rfl, by decide, rfl, rfl, rfl, _, rfl, rfl⟩

end SqlMapper
