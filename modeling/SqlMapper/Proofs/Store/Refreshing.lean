import SqlMapper.Proofs.Store.Decoding
import SqlMapper.Proofs.Store.Saving

namespace SqlMapper

/-! Finding a record and saving it as it was found.

A column that holds the content of its field keeps it, however often the record
is found and saved.
-/

open Store StoreOperation

variable {registry : Registry} {name column : String} {model : Model} {record : Record} {row : Row}
  {field : Field} {value content key : Value} {assignments : List Assignment}
  {parameters : Parameters}

def Row.assign (row : Row) (parameters : Parameters) (assignments : List Assignment) : Row :=
  assignments.foldl
    (fun row assignment => row.insert assignment.column (assignment.operand.held parameters)) row

/-- A database with a single row, which has whatever key is asked for. -/
def singleRow : Server commands Row := fun (command : Command) row =>
  match command with
  | .statement ⟨.selectKeyed .., _⟩ => (.ok [row], row)
  | .statement ⟨.countKeyed .., _⟩ => (.ok [SortedTable.empty.insert "cnt" (.int 1)], row)
  | .statement ⟨.update _ _ assignments, parameters⟩ =>
    let key := (parameters.get? Statement.keyParameter).getD .null
    (.ok [SortedTable.empty.insert "pkid" key], row.assign parameters assignments)
  | _ => (.ok [], row)

def Store.refresh (registry : Registry) (name : String) (key : Value) : StoreOperation Unit := do
  match ← find registry name key with
  | some record => let _ ← save registry name record
  | none => pure ()

def Row.refreshed (registry : Registry) (name : String) (key : Value) (row : Row) : Row :=
  (ending (refresh registry name key) singleRow row).state

theorem Row.get?_assign (stable : row.get? column = some content)
    (holds : ∀ assignment ∈ assignments, assignment.column = column →
      assignment.operand.held parameters = content) :
    (row.assign parameters assignments).get? column = some content := by
  unfold assign
  induction assignments generalizing row with
  | nil => exact stable
  | cons assignment rest ih =>
      rw [List.foldl_cons]
      refine ih ?_ fun later member => holds later (List.mem_cons_of_mem _ member)
      by_cases same : assignment.column = column
      · rw [same, SortedTable.get?_insert_self, holds assignment List.mem_cons_self same]
      · rw [SortedTable.get?_insert_of_ne row _ fun equal => same equal.symm]
        exact stable

theorem state_save (found : registry.model name = .ok model) (record : Record) (row : Row) :
    (ending (save registry name record) singleRow row).state = row ∨
      ∃ assignments bound parameters,
        (model.assignments record).complete .empty = .ok (assignments, bound) ∧
        parameters.Extends bound ∧
        (ending (save registry name record) singleRow row).state =
          row.assign parameters assignments := by
  rcases bound : (model.assignments record).complete .empty with error | ⟨assignments, parameters⟩
  · left
    rw [ending_save_refused found bound]
  cases usable : (model.keyValue? record).filter Value.isUsableKey with
  | none =>
      left
      rw [save_eq_send found usable bound, (ending_bind_quiet _ (quiet_keyed _ _ _)).2, state_send]
      rfl
  | some key =>
      right
      have counted : singleRow (.statement (Prepared.probeOf registry model key)) row =
        (.ok [SortedTable.empty.insert "cnt" (.int 1)], row) := rfl
      refine ⟨assignments, parameters, parameters.addNamed Statement.keyParameter key, rfl,
        Parameters.extends_addNamed _ _ _, ?_⟩
      rw [save_eq_upserting found usable bound, (ending_bind_quiet _ (quiet_keyed _ _ _)).2,
        upserting, ending_bind_ok (ending_send_ok counted), state_send]
      rfl

theorem ending_find (found : registry.model name = .ok model) (key : Value) (row : Row) :
    ∃ exchanges, ending (find registry name key) singleRow row =
      { value := .ok (some (Record.ofRow model row)), exchanges, state := row } := by
  have selected : Prepared.find registry name key = .ok
      { statement := .selectKeyed (registry.tableOf model) model.key
        parameters := .ofKey key } := by
    unfold Prepared.find
    rw [found]
    rfl
  have answered : singleRow (.statement
      { statement := .selectKeyed (registry.tableOf model) model.key
        parameters := .ofKey key }) row = (.ok [row], row) := rfl
  have read : find registry name key = send (.statement
      { statement := .selectKeyed (registry.tableOf model) model.key
        parameters := .ofKey key }) >>= fun rows =>
          pure (rows.head?.map (Record.ofRow model)) := by
    unfold find
    rw [found, selected]
    rfl
  rw [read, ending_bind_ok (ending_send_ok answered)]
  exact ⟨_, rfl⟩

theorem refreshed_eq (found : registry.model name = .ok model) (key : Value) (row : Row) :
    row.refreshed registry name key =
      (ending (save registry name (Record.ofRow model row)) singleRow row).state := by
  obtain ⟨exchanges, read⟩ := ending_find found key row
  unfold Row.refreshed refresh
  rw [ending_bind_ok read]
  exact (ending_bind_quiet _ fun _ => quiet_pure ()).2

/-- A field whose content reads back keeps its column when the record is found
and saved once. -/
theorem get?_refreshed (found : registry.model name = .ok model)
    (declared : model.field? field.name = some field) (own : field.name ≠ keyAlias)
    (rereads : field.Rereads value) (accepted : field.content value = .ok content)
    (stable : row.get? field.name = some content) :
    (row.refreshed registry name key).get? field.name = some content := by
  rw [refreshed_eq found]
  rcases state_save found (Record.ofRow model row) row with
    same | ⟨assignments, bound, parameters, compiled, extended, same⟩
  · rw [same]
    exact stable
  · rw [same]
    refine Row.get?_assign stable fun assignment member sameColumn => ?_
    -- The assigned field has the name of `field`, so it is `field`, and its value was decoded.
    obtain ⟨⟨known, shown⟩, settable, named, holding⟩ :=
      Model.assignments_hold compiled parameters extended assignment member
    obtain ⟨knownDeclared, recorded⟩ := Model.get?_of_settable settable
    have sameName : known.name = field.name := named.symm.trans sameColumn
    rw [sameName] at knownDeclared recorded
    rw [declared] at knownDeclared
    cases knownDeclared
    rw [Record.get?_ofRow model row own, stable] at recorded
    cases recorded
    rw [Field.content_decoded declared rereads accepted] at holding
    cases holding
    rfl

/-- What a record shows of a field's column has the same content as the column. -/
def Row.Shows (row : Row) (model : Model) (field : Field) (content : Value) : Prop :=
  ∃ shown, (Record.ofRow model row).get? field.name = some shown ∧
    field.content shown = .ok content

theorem Row.not_shows {shown : Value} {again : Except CompileError Value}
    (read : (Record.ofRow model row).get? field.name = some shown)
    (written : field.content shown = again) (different : again ≠ .ok content) :
    ¬ row.Shows model field content := by
  rintro ⟨other, found, same⟩
  rw [read] at found
  cases found
  exact different (written.symm.trans same)

/-- A column is found as its content and keeps it, however often its record is
found and saved. -/
theorem refresh_keeps_content (found : registry.model name = .ok model)
    (declared : model.field? field.name = some field) (own : field.name ≠ keyAlias)
    (rereads : field.Rereads value) (accepted : field.content value = .ok content)
    (stable : row.get? field.name = some content) :
    row.Shows model field content ∧
      ∀ key rounds,
        (Nat.repeat (Row.refreshed registry name key) rounds row).get? field.name =
          some content := by
  constructor
  · refine ⟨model.decoded field.name content, ?_,
      Field.content_decoded declared rereads accepted⟩
    rw [Record.get?_ofRow model row own, stable]
    rfl
  · intro key rounds
    induction rounds with
    | zero => exact stable
    | succ rounds ih => exact get?_refreshed found declared own rereads accepted ih

def outlineField : Field := { name := "outline", type := .json }

def dueField : Field := { name := "due", type := .date }

def labelField : Field := { name := "id", type := .string }

def note : Model where
  name := "Note"
  fields := [
    { name := "noteId", type := .number, primaryKey := true }, outlineField, dueField, labelField]
  key := "noteId"

def notes : Registry :=
  { settings := {}, table := SortedTable.empty.insert note.name note }

def noteRow (column : String) (content : Value) : Row :=
  (SortedTable.empty.insert "noteId" (.int 7)).insert column content

theorem rereads_due : dueField.Rereads (.int 0) where
  plain := rfl
  dated := by
    intro _ instant read
    have year : (Value.int 0).instant?.map (·.date.civil.year) = some 1970 := rfl
    rw [read, Option.map_some, Option.some.injEq] at year
    exact ⟨by omega, by omega⟩

theorem refresh_keeps_due :
    Row.Shows (noteRow "due" (.text "1970-01-01T00:00:00.000Z")) note dueField
        (.text "1970-01-01T00:00:00.000Z") ∧
      ∀ key rounds,
        (Nat.repeat (Row.refreshed notes "Note" key) rounds
          (noteRow "due" (.text "1970-01-01T00:00:00.000Z"))).get? "due" =
            some (.text "1970-01-01T00:00:00.000Z") :=
  refresh_keeps_content rfl rfl (by decide) rereads_due rfl rfl

/-- A field that is no key takes a value, and the record of a row with its
content shows something that has another content. -/
def Model.Loses (model : Model) (field : Field) (value content : Value) (row : Row) : Prop :=
  model.field? field.name = some field ∧ model.isKey field.name = false ∧ value.isNull = false ∧
    field.content value = .ok content ∧ row.get? field.name = some content ∧
    ¬ row.Shows model field content

/-- A document is quoted once more, a date after the year 9999 cannot be read,
and a field of the name `id` shows the key. -/
theorem refresh_loses_content :
    notes.model "Note" = .ok note ∧
      note.Loses outlineField (.json (.object [("a", .number (.ofInt64 1))]))
        (.text "\x7b\"a\":1\x7d") (noteRow "outline" (.text "\x7b\"a\":1\x7d")) ∧
      note.Loses dueField (.int 253402300800000) (.text "+10000-01-01T00:00:00.000Z")
        (noteRow "due" (.text "+10000-01-01T00:00:00.000Z")) ∧
      note.Loses labelField (.text "abc") (.text "abc") (noteRow "id" (.text "abc")) := by
  refine ⟨rfl, ⟨rfl, by decide, rfl, rfl, rfl, ?_⟩, ⟨rfl, by decide, rfl, rfl, rfl, ?_⟩,
    ⟨rfl, by decide, rfl, rfl, rfl, ?_⟩⟩
  · have quoted : outlineField.content (.text "\x7b\"a\":1\x7d") =
      .ok (.text "\"\x7b\\\"a\\\":1\x7d\"") := rfl
    exact Row.not_shows rfl quoted (by simp)
  · have refused : dueField.content (.text "+10000-01-01T00:00:00.000Z") =
      .error (.invalidDate "due" (.text "+10000-01-01T00:00:00.000Z")) := rfl
    exact Row.not_shows rfl refused (by simp)
  · have mirrored : labelField.content (.int 7) = .ok (.int 7) := rfl
    exact Row.not_shows rfl mirrored (by simp)

end SqlMapper
