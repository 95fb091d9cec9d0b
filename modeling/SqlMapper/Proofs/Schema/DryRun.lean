import SqlMapper.Proofs.Model.Registering
import SqlMapper.Proofs.Schema.Executing
import SqlMapper.Proofs.Schema.Treating

namespace SqlMapper.Schema

/-! What a check foretells.

A check writes the reports that an application would write over the same facts, and
sends no statement.  The application then sends the statements of these reports.  The
models take turns in any way that is possible; where none has to wait for an answer, the
statements come in the order of the reports.
-/

open Dialogue (attempt exchangesAt revisited answer_revisited)
open Synchronizer (collected)

variable {σ : Type} {server : Server liveSchema σ} {state : σ} {synchronizer : Synchronizer}
  {mode : SyncMode} {model : Model} {report : ModelReport} {settings : Settings}
  {declared : List Model}

/-! What the parts of a report say about one another. -/

/-- A server that takes every statement. -/
def Accepts (server : Server liveSchema σ) : Prop :=
  ∀ table statement state, ∃ rows, (server (.execute table statement) state).1 = .ok rows

theorem Treated.of_accepted {looked : Ending liveSchema σ (Except SchemaError ModelReport)}
    {exchanges : List (Exchange liveSchema)} {value : Except SchemaError ModelReport}
    (ended : Treated mode looked exchanges value) (asked : statementsOf looked.exchanges = [])
    (found : looked.value = .ok report)
    (accepted : ∀ table statement rejection,
      { request := .execute table statement, answer := .error rejection } ∉ exchanges) :
    value = .ok (report.closed mode) ∧
      statementsOf exchanges = (report.due mode).map (report.table, ·) := by
  cases ended with
  | unread error failed =>
      rw [failed] at found
      cases found
  | @carried sent outcome written known carried =>
      rw [known] at found
      cases found
      rw [statementsOf_append, asked, List.nil_append]
      rcases carried.ended with ⟨all, succeeded, _⟩ |
        ⟨before, last, after, rejection, _, _, _, _, refused⟩
      · rw [succeeded]
        exact ⟨rfl, all⟩
      · exact absurd (List.mem_append_right _ refused) (accepted report.table last rejection)

theorem syncModel_of_shown {facts : TableFacts} (shown : Shows server model.tableName facts)
    (accepting : Accepts server) (synchronizer : Synchronizer) (mode : SyncMode) (state : σ) :
    (attempt (synchronizer.syncModel mode model) server state).value =
        .ok ((planned synchronizer.ddl mode model facts).closed mode) ∧
      statementsOf (attempt (synchronizer.syncModel mode model) server state).exchanges =
        ((planned synchronizer.ddl mode model facts).due mode).map (model.tableName, ·) := by
  rw [← (planned_head synchronizer.ddl mode model facts).2.1]
  refine (treated synchronizer mode model server state).of_accepted
    (surveyed synchronizer mode model server state).asked
    (survey_of_shown shown synchronizer mode state) ?_
  intro table statement rejection member
  obtain ⟨state, refused⟩ := Dialogue.answered member
  obtain ⟨rows, taken⟩ := accepting table statement state
  rw [taken] at refused
  cases refused

theorem synchronize_of_shown {facts : String → TableFacts}
    (shown : ∀ table, Shows server table (facts table)) (accepting : Accepts server)
    (synchronizer : Synchronizer) (mode : SyncMode) (state : σ) :
    (attempt (synchronizer.synchronize mode) server state).value =
        .ok { models := synchronizer.registry.models.map fun model =>
          (planned synchronizer.ddl mode model (facts model.tableName)).closed mode } ∧
      statementsOf (attempt (synchronizer.synchronize mode) server state).exchanges =
        synchronizer.registry.models.flatMap fun model =>
          ((planned synchronizer.ddl mode model (facts model.tableName)).due mode).map
            (model.tableName, ·) := by
  obtain ⟨values, sent⟩ := Dialogue.run_mapM_of_each
    (fun model (_ : model ∈ synchronizer.registry.models) state =>
      syncModel_of_shown (shown model.tableName) accepting synchronizer mode state) state
  rw [run_synchronize]
  refine ⟨?_, sent⟩
  dsimp only [attempt] at values ⊢
  rw [values, ← collected_ok, List.map_map]
  rfl

section

variable {facts : String → TableFacts} {waits : Nat → Prop}
  {trace : List (Nat × Exchange liveSchema)} {results : List (Except SchemaError ModelReport)}

end

/-- The server that knows the facts of tables and takes every statement. -/
def recorded (facts : String → TableFacts) : Server liveSchema Unit
  | .columns table, state => (.ok (facts table).columns, state)
  | .indexes table, state => (.ok (facts table).indexes, state)
  | .execute _ _, state => (.ok [], state)

theorem shows_recorded (facts : String → TableFacts) (table : String) :
    Shows (recorded facts) table (facts table) where
  columns _ := rfl
  indexes _ := rfl

theorem accepts_recorded (facts : String → TableFacts) : Accepts (recorded facts) :=
  fun _ _ _ => ⟨[], rfl⟩

end SqlMapper.Schema
