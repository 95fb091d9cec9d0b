import SqlMapper.Proofs.Store.Following

namespace SqlMapper

/-! How operations on a store fail.

`Ended` says what may have been sent when an operation ends in a certain way.  It is
shown for each operation; what holds for the failures of all of them is read off it.
-/

open Store StoreOperation

variable {α β σ : Type} {registry : Registry} {name : String} {model : Model} {record : Record}
  {plan : SavePlan} {command : Command} {exchanges : List (Exchange commands)}
  {result : Except StoreError α}

/-- What can be asked of a store. -/
inductive Operation where
  | create (model : String) (record : Record)
  | save (model : String) (record : Record)
  | updateAttributes (model : String) (key : Option Value) (record : Record)
  | hasKey (model : String) (key : Value)
  | find (model : String) (key : Value)
  | all (model : String) (selection : Selection)
  | count (model : String) (filter : Filter)
  | delete (model : String) (key : Value)
  | deleteAll (model : String)

namespace Operation

def Result : Operation → Type
  | .create .. | .count .. => Int64
  | .save .. | .updateAttributes .. => Record
  | .hasKey .. => Bool
  | .find .. => Option Record
  | .all .. => List Record
  | .delete .. | .deleteAll .. => Unit

def perform (registry : Registry) : (operation : Operation) → StoreOperation operation.Result
  | .create model record => Store.create registry model record
  | .save model record => Store.save registry model record
  | .updateAttributes model key record => Store.updateAttributes registry model key record
  | .hasKey model key => Store.hasKey registry model key
  | .find model key => Store.find registry model key
  | .all model selection => Store.all registry model selection
  | .count model filter => Store.count registry model filter
  | .delete model key => Store.delete registry model key
  | .deleteAll model => Store.deleteAll registry model

end Operation

/-- Statements that insert, update or delete rows, and those that say nothing about it. -/
def Statement.changesRows : Statement → Bool
  | .insert .. | .insertKeyed .. | .update .. | .deleteKeyed .. | .deleteAll .. | .verbatim .. =>
    true
  | .permitKeys .. | .reportKey | .select .. | .count .. | .countKeyed .. | .selectKeyed .. => false

def Command.changesRows : Command → Bool
  | .statement prepared => prepared.statement.changesRows
  | .batch together => together.statements.any Statement.changesRows

/-- Every command was taken. -/
def Accepted (exchanges : List (Exchange commands)) : Prop :=
  ∀ exchange ∈ exchanges, ∃ rows, exchange.answer = .ok rows

/-- No row was inserted, updated or deleted. -/
def ReadsOnly (exchanges : List (Exchange commands)) : Prop :=
  ∀ exchange ∈ exchanges, Command.changesRows exchange.request = false

/-- The count of the rows with a key. -/
def existenceQuery (table : Table) (key : String) (value : Value) : Command :=
  .statement { statement := .countKeyed table key, parameters := .ofKey value }

/-- What has been sent when an operation ends.  A refusal is the end of it, and up to
there every command was taken. -/
inductive Ended : List (Exchange commands) → Except StoreError α → Prop where
  | done {exchanges : List (Exchange commands)} (accepted : Accepted exchanges) (value : α) :
      Ended exchanges (.ok value)
  | unidentified {exchanges : List (Exchange commands)} (accepted : Accepted exchanges)
      (table : String) : Ended exchanges (.error (.missingIdentity table))
  | refused {exchanges : List (Exchange commands)} (accepted : Accepted exchanges)
      (command : Command) (rejection : Rejection) :
      Ended (exchanges ++ [{ request := command, answer := .error rejection }])
        (.error (.execution command rejection))
  | uncompiled {exchanges : List (Exchange commands)} (accepted : Accepted exchanges)
      (readsOnly : ReadsOnly exchanges) (error : CompileError) :
      Ended exchanges (.error (.compile error))
  | absent {table : Table} {key : String} {value : Value} {rows : List Row}
      (none : countOf rows < 1) :
      Ended [{ request := existenceQuery table key value, answer := .ok rows }]
        (.error (.notFound table.name key value))

/-- Whatever the database answers, the operation ends as `Ended` says. -/
def StoreOperation.Ends (operation : StoreOperation α) : Prop :=
  ∀ {σ : Type} (server : Server commands σ) (state : σ),
    Ended (ending operation server state).exchanges (ending operation server state).value

theorem accepted_nil : Accepted [] := List.forall_mem_nil _

theorem accepted_single (command : Command) (rows : List Row) :
    Accepted [{ request := command, answer := .ok rows }] :=
  List.forall_mem_singleton.mpr ⟨rows, rfl⟩

theorem Accepted.append {first second : List (Exchange commands)} (accepted : Accepted first)
    (later : Accepted second) : Accepted (first ++ second) :=
  List.forall_mem_append.mpr ⟨accepted, later⟩

/-! Operations that send one command. -/

/-- Rows are read without sending anything, and only the key can be missing in them. -/
def StoreOperation.Settles (operation : StoreOperation α) : Prop :=
  (∃ value, ExceptT.run operation = .done (.ok value)) ∨
    ∃ table, ExceptT.run operation = .done (.error (.missingIdentity table))

theorem settles_pure (value : α) : Settles (pure value : StoreOperation α) :=
  .inl ⟨value, rfl⟩

theorem settles_reportedKey (model : Model) (column : String) (rows : List Row) :
    Settles (reportedKey model column rows) := by
  unfold reportedKey
  split
  · exact .inl ⟨_, rfl⟩
  · exact .inr ⟨_, rfl⟩

theorem ends_compiled {compilation : Except CompileError α} {next : α → StoreOperation β}
    (later : ∀ value, Ends (next value)) : Ends (compiled compilation >>= next) := by
  intro σ server state
  cases compilation with
  | ok value => exact later value server state
  | error error => exact .uncompiled accepted_nil (List.forall_mem_nil _) error

theorem ends_send {next : List Row → StoreOperation α} (settles : ∀ rows, Settles (next rows)) :
    Ends (send command >>= next) := by
  intro σ server state
  rcases answered : server command state with ⟨rejection | rows, after⟩
  · rw [ending_bind_error (ending_send_error answered)]
    exact .refused accepted_nil command rejection
  · rw [ending_bind_ok (ending_send_ok answered)]
    rcases settles rows with ⟨value, done⟩ | ⟨table, done⟩
    · rw [ending, done, Dialogue.run]
      exact .done (accepted_single command rows) value
    · rw [ending, done, Dialogue.run]
      exact .unidentified (accepted_single command rows) table

/-! Saving, and changing a row that has to exist. -/

theorem ended_of_concludes {column : String} {answer : Answer} {result : Except StoreError Record}
    (accepted : Accepted exchanges)
    (concludes : Concludes model record column command answer result) :
    Ended (exchanges ++ [{ request := command, answer }]) result := by
  cases concludes with
  | refused rejection => exact .refused accepted command rejection
  | unreported _ => exact .unidentified (accepted.append (accepted_single _ _)) model.tableName
  | reported _ _ => exact .done (accepted.append (accepted_single _ _)) _

theorem ended_of_follows {result : Except StoreError Record}
    (follows : Follows model record plan exchanges result) : Ended exchanges result := by
  cases follows with
  | insert concludes => exact ended_of_concludes accepted_nil concludes
  | refused rejection => exact .refused accepted_nil _ rejection
  | update _ concludes | insertKeyed _ concludes =>
      exact ended_of_concludes (accepted_single _ _) concludes

theorem not_absent_of_follows {result : Except StoreError Record} {table key : String}
    {value : Value} (follows : Follows model record plan exchanges result) :
    result ≠ .error (.notFound table key value) := by
  cases follows with
  | refused rejection => simp
  | insert concludes | update _ concludes | insertKeyed _ concludes =>
      cases concludes <;> simp

/-- Saving ends as `Ended` says, and it never misses a row. -/
theorem ended_save (registry : Registry) (name : String) (record : Record)
    (server : Server commands σ) (state : σ) :
    let ended := ending (save registry name record) server state
    Ended ended.exchanges ended.value ∧
      ∀ table key value, ended.value ≠ .error (.notFound table key value) := by
  cases known : registry.model name with
  | error error =>
      have unknown : ending (save registry name record) server state =
          { value := .error (.compile error), exchanges := [], state } := by
        unfold save
        rw [known]
        rfl
      rw [unknown]
      exact ⟨.uncompiled accepted_nil (List.forall_mem_nil _) error, by simp⟩
  | ok model =>
      cases planned : Prepared.save registry name record with
      | error error =>
          rw [ending_save_unplanned known planned]
          exact ⟨.uncompiled accepted_nil (List.forall_mem_nil _) error, by simp⟩
      | ok plan =>
          have follows := follows_of_planned known planned server state
          exact ⟨ended_of_follows follows, fun _ _ _ => not_absent_of_follows follows⟩

/-- A query that is taken may stand in front of anything but a missing row. -/
theorem Ended.behind_query {table : Table} {key : String} {value : Value} {rows : List Row}
    (ended : Ended exchanges result)
    (found : ∀ table key value, result ≠ .error (.notFound table key value)) :
    Ended ({ request := existenceQuery table key value, answer := .ok rows } :: exchanges)
      result := by
  have query := accepted_single (existenceQuery table key value) rows
  cases ended with
  | done accepted value => exact .done (query.append accepted) value
  | unidentified accepted table => exact .unidentified (query.append accepted) table
  | refused accepted command rejection => exact .refused (query.append accepted) command rejection
  | uncompiled accepted readsOnly error =>
      exact .uncompiled (query.append accepted) (List.forall_mem_cons.mpr ⟨rfl, readsOnly⟩) error
  | absent none => exact absurd rfl (found _ _ _)

theorem ends_updateAttributes (registry : Registry) (name : String) (key : Option Value)
    (record : Record) : Ends (updateAttributes registry name key record) := by
  intro σ server state
  cases known : registry.model name with
  | error error =>
      rw [updateAttributes_unknown known]
      exact .uncompiled accepted_nil (List.forall_mem_nil _) error
  | ok model =>
      rw [updateAttributes_eq known]
      rcases counted : server (.statement
          (Prepared.probeOf registry model (model.target record key).1)) state with
        ⟨rejection | rows, after⟩
      · rw [ending_bind_error (ending_send_error counted)]
        exact .refused accepted_nil _ rejection
      · rw [ending_bind_ok (ending_send_ok counted)]
        by_cases present : 1 ≤ countOf rows
        · rw [if_pos present]
          obtain ⟨ended, found⟩ := ended_save registry name (model.target record key).2 server after
          exact ended.behind_query found
        · rw [if_neg present, ending_throw]
          exact .absent (Int64.not_le.mp present)

theorem ends_perform (registry : Registry) (operation : Operation) :
    Ends (operation.perform registry) := by
  cases operation with
  | create model record =>
      exact ends_compiled fun _ => ends_compiled fun _ => ends_send fun _ =>
        settles_reportedKey _ _ _
  | save model record => exact fun server state => (ended_save registry model record server state).1
  | updateAttributes model key record => exact ends_updateAttributes registry model key record
  | hasKey model key => exact ends_compiled fun _ => ends_send fun _ => settles_pure _
  | find model key =>
      exact ends_compiled fun _ => ends_compiled fun _ => ends_send fun _ => settles_pure _
  | all model selection =>
      exact ends_compiled fun _ => ends_compiled fun _ => ends_send fun _ => settles_pure _
  | count model filter => exact ends_compiled fun _ => ends_send fun _ => settles_pure _
  | delete model key => exact ends_compiled fun _ => ends_send fun _ => settles_pure _
  | deleteAll model => exact ends_compiled fun _ => ends_send fun _ => settles_pure _

/-! What a failure says. -/

theorem Ended.last_of_refused (ended : Ended exchanges result)
    {before after : List (Exchange commands)} {rejection : Rejection}
    (sent : exchanges = before ++ { request := command, answer := .error rejection } :: after) :
    after = [] ∧ result = .error (.execution command rejection) := by
  have refused {exchanges : List (Exchange commands)}
      (member : { request := command, answer := .error rejection } ∈ exchanges) :
      ¬ Accepted exchanges := by
    intro accepted
    obtain ⟨rows, answer⟩ := accepted _ member
    cases answer
  have member : { request := command, answer := .error rejection } ∈ exchanges := by
    rw [sent]
    exact List.mem_append_right _ List.mem_cons_self
  cases ended with
  | done accepted | unidentified accepted | uncompiled accepted =>
      exact absurd accepted (refused member)
  | absent none => exact absurd (accepted_single _ _) (refused member)
  | @refused earlier accepted last reason =>
      rcases List.eq_nil_or_concat after with none | ⟨others, other, more⟩
      · subst none
        obtain ⟨_, same⟩ := List.append_inj' sent rfl
        cases same
        exact ⟨rfl, rfl⟩
      · -- Behind the refused command there was another one, so it would have been taken.
        rw [more, List.concat_eq_append, ← List.cons_append, ← List.append_assoc] at sent
        obtain ⟨before, _⟩ := List.append_inj' sent rfl
        rw [before] at accepted
        exact absurd accepted (refused (List.mem_append_right _ List.mem_cons_self))

/-- Nothing is sent after a command that is refused, and the operation fails with
that command and what the database said.  An input that cannot be compiled and a row
that is missing are only reported if no row was changed, and before a missing row is
reported the rows with its key are counted once. -/
theorem failures_exact (registry : Registry) (operation : Operation) (server : Server commands σ)
    (state : σ) :
    let ended := ending (operation.perform registry) server state
    (∀ before command rejection after,
      ended.exchanges = before ++ { request := command, answer := .error rejection } :: after →
        after = [] ∧ ended.value = .error (.execution command rejection)) ∧
    (∀ command rejection, ended.value = .error (.execution command rejection) →
      ∃ before,
        ended.exchanges = before ++ [{ request := command, answer := .error rejection }]) ∧
    (∀ error, ended.value = .error (.compile error) → ReadsOnly ended.exchanges) ∧
    ∀ table key value, ended.value = .error (.notFound table key value) →
      ReadsOnly ended.exchanges ∧ ∃ schema rows,
        ended.exchanges = [
          { request := existenceQuery { schema, name := table } key value, answer := .ok rows }] ∧
        countOf rows < 1 := by
  intro ended
  have ends : Ended ended.exchanges ended.value := ends_perform registry operation server state
  refine ⟨fun before command rejection after sent => ends.last_of_refused sent, ?_, ?_, ?_⟩
  · intro command rejection failed
    generalize ended.exchanges = exchanges at ends ⊢
    rw [failed] at ends
    cases ends with
    | refused accepted => exact ⟨_, rfl⟩
  · intro error failed
    generalize ended.exchanges = exchanges at ends ⊢
    rw [failed] at ends
    cases ends with
    | uncompiled _ readsOnly => exact readsOnly
  · intro table key value failed
    generalize ended.exchanges = exchanges at ends ⊢
    rw [failed] at ends
    cases ends with
    | absent none => exact ⟨List.forall_mem_singleton.mpr rfl, _, _, rfl, none⟩

def changeAda : Operation :=
  .updateAttributes person.name (some (.int 7)) ada

def locked : Rejection := { message := "table is locked", statement := some 1 }

/-- Where no row is counted nothing else is sent, and where the row is gone at the second
count the refused insertion is the last thing that is sent. -/
theorem failures_exact_ada :
    let missing := ending (changeAda.perform people) scriptedStore [.ok [reporting "cnt" 0]]
    let refused := ending (changeAda.perform people) scriptedStore
      [.ok [reporting "cnt" 1], .ok [reporting "cnt" 0], .error locked]
    missing.value = .error (.notFound "Person" "id" (.int 7)) ∧ ReadsOnly missing.exchanges ∧
      refused.exchanges.length = 3 ∧ ∃ before command,
        refused.value = .error (.execution command locked) ∧
          refused.exchanges = before ++ [{ request := command, answer := .error locked }] := by
  refine ⟨rfl, ((failures_exact people changeAda scriptedStore _).2.2.2 _ _ _ rfl).1, rfl, ?_⟩
  obtain ⟨before, sent⟩ := (failures_exact people changeAda scriptedStore
    [.ok [reporting "cnt" 1], .ok [reporting "cnt" 0], .error locked]).2.1 _ locked rfl
  exact ⟨before, _, rfl, sent⟩

end SqlMapper
