import SqlMapper.Proofs.Store.Run

namespace SqlMapper

/-! How a record is saved.

The plan follows from the key of the record.  Without a usable key a row is
added; with one, the rows that have it are counted first.
-/

open Store StoreOperation

variable {σ : Type} {server : Server commands σ} {state : σ} {registry : Registry} {name : String}
  {model : Model} {record : Record} {key : Value} {assignments : List Assignment}
  {parameters : Parameters}

namespace Prepared

def updating (registry : Registry) (model : Model) (key : Value) (assignments : List Assignment)
    (parameters : Parameters) : Prepared :=
  { statement := .update (registry.tableOf model) model.key assignments
    parameters := parameters.addNamed Statement.keyParameter key }

def inserting (registry : Registry) (model : Model) (key : Value) (assignments : List Assignment)
    (parameters : Parameters) : Batch :=
  { statements := [
      .permitKeys (registry.tableOf model) true,
      .insertKeyed (registry.tableOf model) model.key assignments,
      .permitKeys (registry.tableOf model) false, .reportKey]
    parameters := parameters.addNamed Statement.keyParameter key }

theorem insert_eq_ok (found : registry.model name = .ok model)
    (bound : (model.assignments record).complete .empty = .ok (assignments, parameters)) :
    insert registry name record =
      .ok { statement := .insert (registry.tableOf model) assignments, parameters } := by
  simp only [insert, found, bound, bind, Except.bind]
  rfl

theorem insert_eq_error {error : CompileError} (found : registry.model name = .ok model)
    (refused : (model.assignments record).complete .empty = .error error) :
    insert registry name record = .error error := by
  simp only [insert, found, bind, Except.bind, refused]

theorem update_eq_ok (found : registry.model name = .ok model) (key : Value)
    (bound : (model.assignments record).complete .empty = .ok (assignments, parameters)) :
    update registry name key record = .ok (updating registry model key assignments parameters) := by
  simp only [update, found, bound, bind, Except.bind]
  rfl

theorem update_eq_error {error : CompileError} (found : registry.model name = .ok model)
    (key : Value) (refused : (model.assignments record).complete .empty = .error error) :
    update registry name key record = .error error := by
  simp only [update, found, bind, Except.bind, refused]

theorem save_eq_insert (found : registry.model name = .ok model)
    (unusable : (model.keyValue? record).filter Value.isUsableKey = none)
    (bound : (model.assignments record).complete .empty = .ok (assignments, parameters)) :
    save registry name record =
      .ok (.insert { statement := .insert (registry.tableOf model) assignments, parameters }) := by
  simp only [save, found, bind, Except.bind, unusable, insert_eq_ok found bound]
  rfl

theorem save_eq_keyed (found : registry.model name = .ok model)
    (usable : (model.keyValue? record).filter Value.isUsableKey = some key)
    (bound : (model.assignments record).complete .empty = .ok (assignments, parameters)) :
    save registry name record =
      .ok (.keyed key (probeOf registry model key)
        (updating registry model key assignments parameters)
        (inserting registry model key assignments parameters)) := by
  simp only [save, found, bind, Except.bind, usable, bound]
  rfl

theorem save_eq_error {error : CompileError} (found : registry.model name = .ok model)
    (refused : (model.assignments record).complete .empty = .error error) :
    save registry name record = .error error := by
  simp only [save, insert, found, bind, Except.bind, refused]
  split <;> rfl

end Prepared

namespace Store

def upserting (registry : Registry) (model : Model) (key : Value) (assignments : List Assignment)
    (parameters : Parameters) : StoreOperation (List Row) := do
  let counted ← send (.statement (Prepared.probeOf registry model key))
  send (if 1 ≤ countOf counted
    then .statement (Prepared.updating registry model key assignments parameters)
    else .batch (Prepared.inserting registry model key assignments parameters))

def keyed (model : Model) (record : Record) (column : String) (rows : List Row) :
    StoreOperation Record := do
  let key ← reportedKey model column rows
  return (record.set model.key (.int key)).set keyAlias (.int key)

theorem quiet_keyed (model : Model) (record : Record) (column : String) (rows : List Row) :
    Quiet (keyed model record column rows) :=
  (quiet_reportedKey model column rows).bind fun _ => quiet_pure _

theorem save_eq_send (found : registry.model name = .ok model)
    (unusable : (model.keyValue? record).filter Value.isUsableKey = none)
    (bound : (model.assignments record).complete .empty = .ok (assignments, parameters)) :
    save registry name record =
      send (.statement {
        statement := .insert (registry.tableOf model) assignments, parameters }) >>=
          keyed model record "insertId" := by
  unfold save
  rw [found, Prepared.save_eq_insert found unusable bound]
  rfl

theorem save_eq_upserting (found : registry.model name = .ok model)
    (usable : (model.keyValue? record).filter Value.isUsableKey = some key)
    (bound : (model.assignments record).complete .empty = .ok (assignments, parameters)) :
    save registry name record =
      upserting registry model key assignments parameters >>= keyed model record "pkid" := by
  unfold save upserting
  rw [found, Prepared.save_eq_keyed found usable bound, bind_assoc]
  rfl

theorem ending_save_refused {error : CompileError} (found : registry.model name = .ok model)
    (refused : (model.assignments record).complete .empty = .error error) :
    ending (save registry name record) server state =
      { value := .error (.compile error), exchanges := [], state } := by
  unfold save
  rw [found, Prepared.save_eq_error found refused]
  rfl

end Store

end SqlMapper
