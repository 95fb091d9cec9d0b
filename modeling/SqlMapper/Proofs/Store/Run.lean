import SqlMapper.Proofs.Dialogue.Run
import SqlMapper.Store

namespace SqlMapper

/-! How operations on a store run.

`StoreOperation.ending` lets a database answer an operation.  The lemmas take it
through sequencing and through a single command.
-/

open Store

variable {α β σ : Type} {server : Server commands σ} {state : σ}

namespace StoreOperation

def ending (operation : StoreOperation α) (server : Server commands σ) (state : σ) :
    Ending commands σ (Except StoreError α) :=
  (ExceptT.run operation).run server state

/-- The operation sends no command. -/
def Quiet (operation : StoreOperation α) : Prop :=
  ∃ result, ExceptT.run operation = .done result

theorem quiet_pure (value : α) : Quiet (pure value : StoreOperation α) :=
  ⟨.ok value, rfl⟩

theorem quiet_reportedKey (model : Model) (column : String) (rows : List Row) :
    Quiet (reportedKey model column rows) := by
  unfold reportedKey
  split
  · exact ⟨_, rfl⟩
  · exact ⟨_, rfl⟩

theorem Quiet.bind {operation : StoreOperation α} {next : α → StoreOperation β}
    (first : Quiet operation) (second : ∀ value, Quiet (next value)) :
    Quiet (operation >>= next) := by
  obtain ⟨result, ended⟩ := first
  cases result with
  | ok value =>
      obtain ⟨last, done⟩ := second value
      exact ⟨last, by rw [ExceptT.run_bind, ended]; exact done⟩
  | error error => exact ⟨.error error, by rw [ExceptT.run_bind, ended]; rfl⟩

theorem ending_throw (error : StoreError) :
    ending (throw error : StoreOperation α) server state =
      { value := .error error, exchanges := [], state } := rfl

theorem ending_bind_ok {operation : StoreOperation α} {next : α → StoreOperation β} {value : α}
    {exchanges : List (Exchange commands)} {after : σ}
    (done : ending operation server state = { value := .ok value, exchanges, state := after }) :
    ending (operation >>= next) server state =
      { ending (next value) server after with
        exchanges := exchanges ++ (ending (next value) server after).exchanges } :=
  Dialogue.attempt_bind_ok done

theorem ending_bind_error {operation : StoreOperation α} {next : α → StoreOperation β}
    {error : StoreError} {exchanges : List (Exchange commands)} {after : σ}
    (failed : ending operation server state =
      { value := .error error, exchanges, state := after }) :
    ending (operation >>= next) server state =
      { value := .error error, exchanges, state := after } :=
  Dialogue.attempt_bind_error failed

theorem ending_bind_quiet (operation : StoreOperation α) {next : α → StoreOperation β}
    (quiet : ∀ value, Quiet (next value)) :
    (ending (operation >>= next) server state).exchanges =
        (ending operation server state).exchanges ∧
      (ending (operation >>= next) server state).state = (ending operation server state).state := by
  rcases ended : ending operation server state with ⟨error | value, exchanges, after⟩
  · rw [ending_bind_error ended]
    exact ⟨rfl, rfl⟩
  · obtain ⟨result, done⟩ := quiet value
    have last : ending (next value) server after = ⟨result, [], after⟩ := by
      rw [ending, done, Dialogue.run]
    rw [ending_bind_ok ended, last, List.append_nil]
    exact ⟨rfl, rfl⟩

theorem ending_ask (command : Command) :
    ending (ExceptT.lift (commands.ask command)) server state =
      { value := .ok (server command state).1
        exchanges := [{ request := command, answer := (server command state).1 }]
        state := (server command state).2 } := rfl

theorem ending_send_ok {command : Command} {rows : List Row} {after : σ}
    (answered : server command state = (.ok rows, after)) :
    ending (send command) server state =
      { value := .ok rows, exchanges := [{ request := command, answer := .ok rows }],
        state := after } := by
  rw [send, ending_bind_ok (ending_ask command), answered]
  rfl

theorem ending_send_error {command : Command} {rejection : Rejection} {after : σ}
    (refused : server command state = (.error rejection, after)) :
    ending (send command) server state =
      { value := .error (.execution command rejection)
        exchanges := [{ request := command, answer := .error rejection }], state := after } := by
  rw [send, ending_bind_ok (ending_ask command), refused]
  rfl

theorem exchanges_send (command : Command) :
    (ending (send command) server state).exchanges =
      [{ request := command, answer := (server command state).1 }] := by
  rcases answered : server command state with ⟨rejection | rows, after⟩
  · rw [ending_send_error answered]
  · rw [ending_send_ok answered]

theorem state_send (command : Command) :
    (ending (send command) server state).state = (server command state).2 := by
  rcases answered : server command state with ⟨rejection | rows, after⟩
  · rw [ending_send_error answered]
  · rw [ending_send_ok answered]

end StoreOperation

end SqlMapper
