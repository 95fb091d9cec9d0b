import SqlMapper.Proofs.Statement.Parts
import SqlMapper.Proofs.Store.Changing

namespace SqlMapper

/-! Saving by a plan.

A plan says which commands may be sent: one that adds a row, or a count and then one
of two writes.  `Follows` says which of them are sent for the answers that come
back, and what the record is in the end.
-/

open Store StoreOperation

variable {σ : Type} {server : Server commands σ} {state : σ} {registry : Registry} {name : String}
  {model : Model} {record returned : Record} {plan : SavePlan} {column : String}
  {command : Command} {rows : List Row}

/-- A record as it comes back: the key is in its column and under `id`, all other
values are kept, and so are the places of the fields. -/
structure Record.Keyed (model : Model) (key : Int64) (record returned : Record) : Prop where
  column : returned.get? model.key = some (.int key)
  mirror : returned.get? keyAlias = some (.int key)
  others : ∀ name, name ≠ model.key → name ≠ keyAlias → returned.get? name = record.get? name
  order : ∃ added, returned.fields = record.fields ++ added ∧ added ⊆ [model.key, keyAlias]

/-- A plan that goes with the key of a record. -/
def SavePlan.Suits (registry : Registry) (name : String) (model : Model) (record : Record) :
    SavePlan → Prop
  | .insert statement =>
    (model.keyValue? record).filter Value.isUsableKey = none ∧
      Prepared.insert registry name record = .ok statement
  | .keyed key probe update batch =>
    (model.keyValue? record).filter Value.isUsableKey = some key ∧
      Prepared.probe registry name key = .ok probe ∧
      Prepared.update registry name key record = .ok update ∧
      ∃ table assignments,
        update.statement = .update table model.key assignments ∧
        batch = {
          statements := [
            .permitKeys table true, .insertKeyed table model.key assignments,
            .permitKeys table false, .reportKey]
          parameters := update.parameters }

namespace Store

/-- What comes of the last command of a plan.  Its rows report the key in a column,
and the first whole number counts. -/
inductive Concludes (model : Model) (record : Record) (column : String) (command : Command) :
    Answer → Except StoreError Record → Prop where
  | refused (rejection : Rejection) :
      Concludes model record column command (.error rejection)
        (.error (.execution command rejection))
  | unreported {rows : List Row} (missing : firstInt? column rows = none) :
      Concludes model record column command (.ok rows) (.error (.missingIdentity model.tableName))
  | reported {rows : List Row} {key : Int64} {returned : Record}
      (first : firstInt? column rows = some key) (keyed : record.Keyed model key returned) :
      Concludes model record column command (.ok rows) (.ok returned)

/-- What is asked and answered when a record is saved by a plan, and what comes of it. -/
inductive Follows (model : Model) (record : Record) :
    SavePlan → List (Exchange commands) → Except StoreError Record → Prop where
  | insert {statement : Prepared} {answer : Answer} {result : Except StoreError Record}
      (concludes : Concludes model record "insertId" (.statement statement) answer result) :
      Follows model record (.insert statement)
        [{ request := Command.statement statement, answer }] result
  | refused {key : Value} {probe update : Prepared} {batch : Batch} (rejection : Rejection) :
      Follows model record (.keyed key probe update batch)
        [{ request := Command.statement probe, answer := .error rejection }]
        (.error (.execution (.statement probe) rejection))
  | update {key : Value} {probe update : Prepared} {batch : Batch} {rows : List Row}
      {answer : Answer} {result : Except StoreError Record}
      (present : ∃ count ∈ firstInt? "cnt" rows, 1 ≤ count)
      (concludes : Concludes model record "pkid" (.statement update) answer result) :
      Follows model record (.keyed key probe update batch)
        [{ request := Command.statement probe, answer := .ok rows },
          { request := Command.statement update, answer }] result
  | insertKeyed {key : Value} {probe update : Prepared} {batch : Batch} {rows : List Row}
      {answer : Answer} {result : Except StoreError Record}
      (absent : ∀ count ∈ firstInt? "cnt" rows, count < 1)
      (concludes : Concludes model record "pkid" (.batch batch) answer result) :
      Follows model record (.keyed key probe update batch)
        [{ request := Command.statement probe, answer := .ok rows },
          { request := Command.batch batch, answer }] result

end Store

theorem Record.keyed_set (model : Model) (record : Record) (key : Int64) :
    record.Keyed model key ((record.set model.key (.int key)).set keyAlias (.int key)) where
  column := by
    by_cases same : model.key = keyAlias
    · rw [same, get?_set_self]
    · rw [get?_set_of_ne _ _ same, get?_set_self]
  mirror := get?_set_self _ _ _
  others := by
    intro name other notMirror
    rw [get?_set_of_ne _ _ notMirror, get?_set_of_ne _ _ other]
  order := by
    rw [fields_set, fields_set]
    refine ⟨(if model.key ∈ record.fields then [] else [model.key]) ++
      if keyAlias ∈ (record.set model.key (.int key)).fields then [] else [keyAlias], ?_, ?_⟩
    · rw [fields_set]
      split <;> split <;> simp
    · rw [fields_set]
      split <;> split <;> simp

theorem countOf_iff : 1 ≤ countOf rows ↔ ∃ count ∈ firstInt? "cnt" rows, 1 ≤ count := by
  unfold countOf
  cases firstInt? "cnt" rows <;> simp

/-- Sending the last command and reading the key off its rows. -/
theorem ending_keyed (model : Model) (record : Record) (column : String) (command : Command)
    (server : Server commands σ) (state : σ) :
    ∃ result, Concludes model record column command (server command state).1 result ∧
      ending (send command >>= keyed model record column) server state =
        { value := result
          exchanges := [{ request := command, answer := (server command state).1 }]
          state := (server command state).2 } := by
  rcases answered : server command state with ⟨rejection | rows, after⟩
  · exact ⟨_, .refused rejection, ending_bind_error (ending_send_error answered)⟩
  · cases first : firstInt? column rows with
    | none =>
        refine ⟨_, .unreported first, ?_⟩
        rw [ending_bind_ok (ending_send_ok answered), keyed, reportedKey, first]
        rfl
    | some key =>
        refine ⟨_, .reported first (record.keyed_set model key), ?_⟩
        rw [ending_bind_ok (ending_send_ok answered), keyed, reportedKey, first]
        rfl

theorem suits_of_planned (known : registry.model name = .ok model)
    (planned : Prepared.save registry name record = .ok plan) :
    plan.Suits registry name model record := by
  cases usable : (model.keyValue? record).filter Value.isUsableKey with
  | none =>
      obtain ⟨inserted, prepared, rfl⟩ := Prepared.parts_of_save_unusable known usable planned
      exact ⟨usable, prepared⟩
  | some key =>
      obtain ⟨assignments, parameters, bound, rfl⟩ :=
        Prepared.parts_of_save_usable known usable planned
      refine ⟨usable, ?_, ?_, registry.tableOf model, assignments, rfl, rfl⟩
      · simp only [Prepared.probe, known]
        rfl
      · simp only [Prepared.update, known, bound, bind, Except.bind]
        rfl

/-- The count decides between the two writes. -/
theorem follows_upserting (model : Model) (record : Record) (key : Value)
    (assignments : List Assignment) (parameters : Parameters) (registry : Registry)
    (server : Server commands σ) (state : σ) :
    let ended := ending (upserting registry model key assignments parameters >>=
      keyed model record "pkid") server state
    Follows model record
      (.keyed key (Prepared.probeOf registry model key)
        (Prepared.updating registry model key assignments parameters)
        (Prepared.inserting registry model key assignments parameters))
      ended.exchanges ended.value := by
  rw [upserting, bind_assoc]
  rcases counted : server (.statement (Prepared.probeOf registry model key)) state with
    ⟨rejection | rows, after⟩
  · rw [ending_bind_error (ending_send_error counted)]
    exact .refused rejection
  · rw [ending_bind_ok (ending_send_ok counted)]
    by_cases present : 1 ≤ countOf rows
    · rw [if_pos present]
      obtain ⟨result, concludes, written⟩ := ending_keyed model record "pkid"
        (.statement (Prepared.updating registry model key assignments parameters)) server after
      rw [written]
      exact .update (countOf_iff.mp present) concludes
    · rw [if_neg present]
      obtain ⟨result, concludes, written⟩ := ending_keyed model record "pkid"
        (.batch (Prepared.inserting registry model key assignments parameters)) server after
      rw [written]
      refine .insertKeyed (fun count first => ?_) concludes
      exact Int64.not_le.mp fun atLeast => present (countOf_iff.mpr ⟨count, first, atLeast⟩)

theorem follows_of_planned (known : registry.model name = .ok model)
    (planned : Prepared.save registry name record = .ok plan) (server : Server commands σ)
    (state : σ) :
    Follows model record plan (ending (save registry name record) server state).exchanges
      (ending (save registry name record) server state).value := by
  cases usable : (model.keyValue? record).filter Value.isUsableKey with
  | none =>
      obtain ⟨inserted, prepared, rfl⟩ := Prepared.parts_of_save_unusable known usable planned
      obtain ⟨assignments, parameters, bound, rfl⟩ := Prepared.parts_of_insert known prepared
      obtain ⟨result, concludes, written⟩ :=
        ending_keyed model record "insertId" (.statement _) server state
      rw [save_eq_send known usable bound, written]
      exact .insert concludes
  | some key =>
      obtain ⟨assignments, parameters, bound, rfl⟩ :=
        Prepared.parts_of_save_usable known usable planned
      rw [save_eq_upserting known usable bound]
      exact follows_upserting model record key assignments parameters registry server state

theorem ending_save_unplanned {error : CompileError} (known : registry.model name = .ok model)
    (refused : Prepared.save registry name record = .error error) :
    ending (save registry name record) server state =
      { value := .error (.compile error), exchanges := [], state } := by
  unfold save
  rw [known, refused]
  rfl

/-- A record that is returned was asked for with a plan, and has the key. -/
theorem keyed_of_saved (known : registry.model name = .ok model)
    (saved : (ending (save registry name record) server state).value = .ok returned) :
    ∃ key, record.Keyed model key returned := by
  cases planned : Prepared.save registry name record with
  | error error =>
      rw [ending_save_unplanned known planned] at saved
      cases saved
  | ok plan =>
      have follows := follows_of_planned known planned server state
      rw [saved] at follows
      generalize (ending (save registry name record) server state).exchanges = exchanges at follows
      cases follows with
      | insert concludes | update _ concludes | insertKeyed _ concludes =>
          cases concludes with
          | reported _ keyed => exact ⟨_, keyed⟩

/-- Saving sends what the plan says and nothing else: without a usable key one
insertion, and with one a count and then the write that the count decides on.  The
first refusal is the end.  A record that cannot be planned is not sent at all. -/
theorem save_follows_plan (known : registry.model name = .ok model) (record : Record)
    (server : Server commands σ) (state : σ) :
    (∀ error, Prepared.save registry name record = .error error →
      ending (save registry name record) server state =
        { value := .error (.compile error), exchanges := [], state }) ∧
    ∀ plan, Prepared.save registry name record = .ok plan →
      plan.Suits registry name model record ∧
        Follows model record plan (ending (save registry name record) server state).exchanges
          (ending (save registry name record) server state).value :=
  ⟨fun _ refused => ending_save_unplanned known refused, fun _ planned =>
    ⟨suits_of_planned known planned, follows_of_planned known planned server state⟩⟩

def ada : Record :=
  (Record.empty.set "id" (.int 7)).set "name" (.text "Ada")

theorem save_follows_plan_ada :
    people.model person.name = .ok person ∧
      ∃ plan, Prepared.save people person.name ada = .ok plan ∧
        plan.Suits people person.name person ada ∧
        Follows person ada plan
          (ending (save people person.name ada) scriptedStore
            [.ok [reporting "cnt" 1], .ok [reporting "pkid" 7]]).exchanges
          (ending (save people person.name ada) scriptedStore
            [.ok [reporting "cnt" 1], .ok [reporting "pkid" 7]]).value :=
  ⟨rfl, _, rfl, (save_follows_plan rfl ada scriptedStore _).2 _ rfl⟩

/-- Of several rows only the first whole number counts: a row reports that the key is
there, and yet a row is added under it. -/
theorem save_may_add_beside_counted :
    (∃ row ∈ [reporting "cnt" 0, reporting "cnt" 1], ∃ count ∈ row.int? "cnt", 1 ≤ count) ∧
      ∃ key probe update batch,
        Prepared.save people person.name ada = .ok (.keyed key probe update batch) ∧
          (ending (save people person.name ada) scriptedStore
            [.ok [reporting "cnt" 0, reporting "cnt" 1], .ok [reporting "pkid" 7]]).exchanges.map
              (·.request) = [.statement probe, .batch batch] :=
  ⟨⟨reporting "cnt" 1, by simp, 1, rfl, by decide⟩, _, _, _, _, rfl, rfl⟩

end SqlMapper
