import SqlMapper.Proofs.Dialogue.Interleaving
import SqlMapper.Schema.Sync

namespace SqlMapper.Schema

/-! How one model is treated.

Its table is looked at and a report is written, without a change to anything.  Then the
statements of the report are carried out one after the other, up to the first that is
refused.  How models are treated side by side is at the end: where none of them has to
wait, `synchronize` is what happens.
-/

open Dialogue (attempt attempt_bind_ok attempt_bind_error)
open SchemaOperation Synchronizer

variable {σ : Type} {server : Server liveSchema σ} {state : σ} {synchronizer : Synchronizer}
  {mode : SyncMode} {model : Model} {report : ModelReport} {table : String} {ddl : Settings}
  {statements : List Sql} {exchanges : List (Exchange liveSchema)}

def SchemaRequest.statement? : SchemaRequest → Option (String × Sql)
  | .execute table statement => some (table, statement)
  | .columns _ | .indexes _ => none

/-- The statements that have been sent, refused ones included, with their tables. -/
def statementsOf (exchanges : List (Exchange liveSchema)) : List (String × Sql) :=
  exchanges.filterMap fun exchange => SchemaRequest.statement? exchange.request

@[simp]
theorem statementsOf_append (first second : List (Exchange liveSchema)) :
    statementsOf (first ++ second) = statementsOf first ++ statementsOf second :=
  List.filterMap_append

/-! Looking at a table. -/

theorem attempt_columns {answer : Except SchemaError (List StoredColumn)} {after : σ}
    (answered : server (.columns table) state = (answer, after)) :
    attempt (columns table) server state =
      { value := answer, exchanges := [⟨.columns table, answer⟩], state := after } := by
  have asked : attempt (columns table) server state =
      { value := (server (.columns table) state).1
        exchanges := [{ request := .columns table, answer := (server (.columns table) state).1 }]
        state := (server (.columns table) state).2 } := rfl
  rw [asked, answered]

theorem attempt_indexes {answer : Except SchemaError (List IndexEntry)} {after : σ}
    (answered : server (.indexes table) state = (answer, after)) :
    attempt (indexes table) server state =
      { value := answer, exchanges := [⟨.indexes table, answer⟩], state := after } := by
  have asked : attempt (indexes table) server state =
      { value := (server (.indexes table) state).1
        exchanges := [{ request := .indexes table, answer := (server (.indexes table) state).1 }]
        state := (server (.indexes table) state).2 } := rfl
  rw [asked, answered]

theorem survey_eq (looked : mode ≠ .rebuild) :
    synchronizer.survey mode model =
      columns model.tableName >>= fun found =>
        if found.isEmpty then pure (.creating synchronizer.ddl model)
        else indexes model.tableName >>= fun entries =>
          pure (.comparing synchronizer.ddl model { columns := found, indexes := entries }) := by
  unfold survey
  rw [if_neg looked]

/-- The report on a model whose table is as the facts say. -/
def planned (ddl : Settings) (mode : SyncMode) (model : Model) (facts : TableFacts) : ModelReport :=
  if mode = .rebuild then .rebuilding ddl model
  else if facts.columns.isEmpty then .creating ddl model
  else .comparing ddl model facts

/-- A report names its model, and nothing has been done about it yet. -/
theorem planned_head (ddl : Settings) (mode : SyncMode) (model : Model) (facts : TableFacts) :
    (planned ddl mode model facts).model = model.name ∧
      (planned ddl mode model facts).table = model.tableName ∧
      (planned ddl mode model facts).applied = false := by
  unfold planned
  split
  · exact ⟨rfl, rfl, rfl⟩
  · split <;> exact ⟨rfl, rfl, rfl⟩

/-- What a look at a table leads to.  Nothing is sent but questions, and a report is the
one on what was answered. -/
inductive Surveyed (ddl : Settings) (mode : SyncMode) (model : Model) :
    Ending liveSchema σ (Except SchemaError ModelReport) → Prop where
  | reported {exchanges : List (Exchange liveSchema)} {state : σ} (facts : TableFacts)
      (asked : statementsOf exchanges = []) :
      Surveyed ddl mode model
        { value := .ok (planned ddl mode model facts), exchanges, state }
  | failed {exchanges : List (Exchange liveSchema)} {state : σ} (error : SchemaError)
      (asked : statementsOf exchanges = []) :
      Surveyed ddl mode model { value := .error error, exchanges, state }

theorem surveyed (synchronizer : Synchronizer) (mode : SyncMode) (model : Model)
    (server : Server liveSchema σ) (state : σ) :
    Surveyed synchronizer.ddl mode model
      (attempt (synchronizer.survey mode model) server state) := by
  by_cases rebuilt : mode = .rebuild
  · subst rebuilt
    exact .reported {} rfl
  rw [survey_eq rebuilt]
  rcases listed : server (.columns model.tableName) state with ⟨error | found, middle⟩
  · rw [attempt_bind_error (attempt_columns listed)]
    exact .failed error rfl
  rw [attempt_bind_ok (attempt_columns listed)]
  by_cases missing : found.isEmpty
  · have plan : planned synchronizer.ddl mode model { columns := found } =
        .creating synchronizer.ddl model := by simp [planned, rebuilt, missing]
    rw [if_pos missing, ← plan]
    exact .reported _ rfl
  · rw [if_neg missing]
    rcases described : server (.indexes model.tableName) middle with ⟨error | entries, after⟩
    · rw [attempt_bind_error (attempt_indexes described)]
      exact .failed error rfl
    · have plan : planned synchronizer.ddl mode model { columns := found, indexes := entries } =
          .comparing synchronizer.ddl model { columns := found, indexes := entries } := by
        simp [planned, rebuilt, missing]
      rw [attempt_bind_ok (attempt_indexes described), ← plan]
      exact .reported _ rfl

theorem Surveyed.asked {looked : Ending liveSchema σ (Except SchemaError ModelReport)}
    (surveyed : Surveyed ddl mode model looked) : statementsOf looked.exchanges = [] := by
  cases surveyed with
  | reported facts asked => exact asked
  | failed error asked => exact asked

/-- A server that knows the facts of a table. -/
structure Shows (server : Server liveSchema σ) (table : String) (facts : TableFacts) : Prop where
  columns : ∀ state, (server (.columns table) state).1 = .ok facts.columns
  indexes : ∀ state, (server (.indexes table) state).1 = .ok facts.indexes

theorem survey_of_shown {facts : TableFacts} (shown : Shows server model.tableName facts)
    (synchronizer : Synchronizer) (mode : SyncMode) (state : σ) :
    (attempt (synchronizer.survey mode model) server state).value =
      .ok (planned synchronizer.ddl mode model facts) := by
  by_cases rebuilt : mode = .rebuild
  · subst rebuilt
    rfl
  have listed : server (.columns model.tableName) state =
      (.ok facts.columns, (server (.columns model.tableName) state).2) :=
    Prod.ext (shown.columns state) rfl
  rw [survey_eq rebuilt, attempt_bind_ok (attempt_columns listed), planned, if_neg rebuilt]
  by_cases missing : facts.columns.isEmpty
  · rw [if_pos missing, if_pos missing]
    rfl
  · rw [if_neg missing, if_neg missing]
    generalize (server (.columns model.tableName) state).2 = middle
    have described : server (.indexes model.tableName) middle =
        (.ok facts.indexes, (server (.indexes model.tableName) middle).2) :=
      Prod.ext (shown.indexes middle) rfl
    rw [attempt_bind_ok (attempt_indexes described)]
    rfl

/-! Carrying out statements. -/

/-- Statements are sent in order, up to the first that is refused. -/
inductive CarriesOut (table : String) :
    List Sql → List (Exchange liveSchema) → Except SchemaError Unit → Prop where
  | done : CarriesOut table [] [] (.ok ())
  | taken {statement : Sql} {rest : List Sql} {exchanges : List (Exchange liveSchema)}
      {result : Except SchemaError Unit} (rows : List Row)
      (later : CarriesOut table rest exchanges result) :
      CarriesOut table (statement :: rest)
        ({ request := .execute table statement, answer := .ok rows } :: exchanges) result
  | refused {statement : Sql} {rest : List Sql} (rejection : Rejection) :
      CarriesOut table (statement :: rest)
        [{ request := .execute table statement, answer := .error rejection }]
        (.error (.execution table (statement.render .sqlServer) rejection))

theorem attempt_execute {statement : Sql} {answer : Answer} {after : σ}
    (answered : server (.execute table statement) state = (answer, after)) :
    attempt (execute table statement) server state =
      { value := executed table statement answer
        exchanges := [{ request := .execute table statement, answer }], state := after } := by
  have asked : attempt (execute table statement) server state =
      { value := executed table statement (server (.execute table statement) state).1
        exchanges := [{
          request := .execute table statement
          answer := (server (.execute table statement) state).1 }]
        state := (server (.execute table statement) state).2 } := rfl
  rw [asked, answered]

theorem carriesOut (table : String) (statements : List Sql) (server : Server liveSchema σ)
    (state : σ) :
    CarriesOut table statements
      (attempt (statements.forM (execute table)) server state).exchanges
      (attempt (statements.forM (execute table)) server state).value := by
  induction statements generalizing state with
  | nil => exact .done
  | cons statement rest ih =>
      rw [List.forM_eq_forM, List.forM_cons]
      rcases answered : server (.execute table statement) state with ⟨rejection | rows, after⟩
      · rw [attempt_bind_error (attempt_execute answered)]
        exact .refused rejection
      · rw [attempt_bind_ok (attempt_execute answered)]
        exact .taken rows (ih after)

/-- All statements have been taken, or one has been refused and none has been sent after it. -/
theorem CarriesOut.ended {result : Except SchemaError Unit}
    (carried : CarriesOut table statements exchanges result) :
    (statementsOf exchanges = statements.map (table, ·) ∧ result = .ok () ∧
        ∀ statement ∈ statements, ∃ rows,
          { request := .execute table statement, answer := .ok rows } ∈ exchanges) ∨
      ∃ before statement after rejection,
        statements = before ++ statement :: after ∧
          statementsOf exchanges = (before ++ [statement]).map (table, ·) ∧
          result = .error (.execution table (statement.render .sqlServer) rejection) ∧
          (∀ earlier ∈ before, ∃ rows,
            { request := .execute table earlier, answer := .ok rows } ∈ exchanges) ∧
          { request := .execute table statement, answer := .error rejection } ∈ exchanges := by
  induction carried with
  | done => exact .inl ⟨rfl, rfl, fun _ member => absurd member List.not_mem_nil⟩
  | @taken statement rest exchanges result rows later ih =>
      have takenToo {others : List Sql}
          (taken : ∀ other ∈ others, ∃ rows,
            { request := .execute table other, answer := .ok rows } ∈ exchanges) :
          ∀ other ∈ statement :: others, ∃ answer,
            ({ request := .execute table other, answer := .ok answer } : Exchange liveSchema) ∈
              { request := .execute table statement, answer := .ok rows } :: exchanges := by
        intro other member
        rcases List.mem_cons.mp member with same | later
        · exact ⟨rows, same ▸ List.mem_cons_self⟩
        · obtain ⟨answer, member⟩ := taken other later
          exact ⟨answer, List.mem_cons_of_mem _ member⟩
      rcases ih with ⟨sent, succeeded, taken⟩ |
        ⟨before, last, after, rejection, split, sent, failed, taken, refused⟩
      · exact .inl ⟨congrArg (List.cons (table, statement)) sent, succeeded, takenToo taken⟩
      · exact .inr ⟨statement :: before, last, after, rejection,
          congrArg (List.cons statement) split, congrArg (List.cons (table, statement)) sent,
          failed, takenToo taken, List.mem_cons_of_mem _ refused⟩
  | @refused statement rest rejection =>
      exact .inr ⟨[], statement, rest, rejection, rfl, rfl, rfl,
        fun _ member => absurd member List.not_mem_nil, List.mem_cons_self⟩

/-! Treating a model. -/

/-- The statements of a report that are carried out in a mode. -/
def ModelReport.due (mode : SyncMode) (report : ModelReport) : List Sql :=
  if mode = .check then [] else report.statements

/-- The report on a model whose statements have been carried out. -/
def ModelReport.closed (mode : SyncMode) (report : ModelReport) : ModelReport :=
  { report with applied := !(report.due mode).isEmpty }

/-- What treating a model leads to, given what the look at its table has led to. -/
inductive Treated (mode : SyncMode)
    (looked : Ending liveSchema σ (Except SchemaError ModelReport)) :
    List (Exchange liveSchema) → Except SchemaError ModelReport → Prop where
  | unread (error : SchemaError) (found : looked.value = .error error) :
      Treated mode looked looked.exchanges (.error error)
  | carried {exchanges : List (Exchange liveSchema)} {result : Except SchemaError Unit}
      (report : ModelReport) (found : looked.value = .ok report)
      (sent : CarriesOut report.table (report.due mode) exchanges result) :
      Treated mode looked (looked.exchanges ++ exchanges) (result.map fun _ => report.closed mode)

theorem syncModel_eq :
    synchronizer.syncModel mode model = synchronizer.survey mode model >>= fun report =>
      if mode = .check ∨ report.statements.isEmpty then pure report
      else report.statements.forM (execute report.table) >>= fun _ =>
        pure { report with applied := true } := rfl

theorem due_eq_nil_iff :
    report.due mode = [] ↔ mode = .check ∨ report.statements.isEmpty := by
  unfold ModelReport.due
  by_cases checking : mode = .check <;> simp [checking]

theorem closed_of_nothing (unapplied : report.applied = false) (nothing : report.due mode = []) :
    report.closed mode = report := by
  obtain ⟨name, table, action, changes, statements, mismatches, applied⟩ := report
  cases unapplied
  rw [ModelReport.closed, nothing]
  rfl

theorem closed_of_due (pending : report.due mode ≠ []) :
    report.closed mode = { report with applied := true } := by
  rw [ModelReport.closed, List.isEmpty_eq_false_iff.mpr pending]
  rfl

theorem applied_of_looked {synchronizer : Synchronizer} {looks : List (Exchange liveSchema)}
    {middle : σ}
    (looked : attempt (synchronizer.survey mode model) server state =
      { value := .ok report, exchanges := looks, state := middle }) : report.applied = false := by
  have found := surveyed synchronizer mode model server state
  rw [looked] at found
  cases found with
  | reported facts asked => exact (planned_head _ _ _ facts).2.2

theorem treated (synchronizer : Synchronizer) (mode : SyncMode) (model : Model)
    (server : Server liveSchema σ) (state : σ) :
    Treated mode (attempt (synchronizer.survey mode model) server state)
      (attempt (synchronizer.syncModel mode model) server state).exchanges
      (attempt (synchronizer.syncModel mode model) server state).value := by
  rw [syncModel_eq]
  rcases looked : attempt (synchronizer.survey mode model) server state with
    ⟨error | report, looks, middle⟩
  · rw [attempt_bind_error looked]
    exact .unread error rfl
  have told {exchanges : List (Exchange liveSchema)} {result : Except SchemaError Unit}
      (sent : CarriesOut report.table (report.due mode) exchanges result) :
      Treated mode { value := .ok report, exchanges := looks, state := middle }
        (looks ++ exchanges) (result.map fun _ => report.closed mode) := .carried report rfl sent
  rw [attempt_bind_ok looked]
  by_cases nothing : report.due mode = []
  · rw [if_pos (due_eq_nil_iff.mp nothing)]
    have sent : CarriesOut report.table (report.due mode) [] (.ok ()) := nothing ▸ .done
    have kept := told sent
    rw [closed_of_nothing (applied_of_looked looked) nothing] at kept
    exact kept
  · have pending := mt due_eq_nil_iff.mpr nothing
    have all : report.due mode = report.statements := if_neg fun checking => pending (.inl checking)
    have sent := carriesOut report.table report.statements server middle
    rw [if_neg pending]
    rcases carried : attempt (report.statements.forM (execute report.table)) server middle with
      ⟨error | _, exchanges, after⟩
    · rw [carried] at sent
      rw [attempt_bind_error carried]
      exact told (all ▸ sent)
    · rw [carried] at sent
      have applied := told (all ▸ sent)
      rw [closed_of_due nothing, ← List.append_nil exchanges] at applied
      rw [attempt_bind_ok carried]
      exact applied

/-! Treating all models. -/

theorem run_synchronize (synchronizer : Synchronizer) (mode : SyncMode)
    (server : Server liveSchema σ) (state : σ) :
    let ended := (synchronizer.registry.models.mapM fun model =>
      ExceptT.run (synchronizer.syncModel mode model)).run server state
    attempt (synchronizer.synchronize mode) server state =
      { ended with value := collected ended.value } :=
  Dialogue.run_map _ collected server state

theorem mapM_treatments (synchronizer : Synchronizer) (mode : SyncMode) :
    (synchronizer.treatments mode).mapM id = synchronizer.registry.models.mapM fun model =>
      ExceptT.run (synchronizer.syncModel mode model) := by
  rw [treatments, List.mapM_map]
  rfl

theorem Synchronizer.Treats.prompt {waits : Nat → Prop} {trace : List (Nat × Exchange liveSchema)}
    {results : List (Except SchemaError ModelReport)}
    (treats : synchronizer.Treats waits mode server state trace results)
    (prompt : ∀ place, ¬ waits place) :
    collected results = (attempt (synchronizer.synchronize mode) server state).value ∧
      trace.map (·.2) = (attempt (synchronizer.synchronize mode) server state).exchanges := by
  obtain ⟨values, exchanges⟩ := Dialogue.Joined.prompt treats prompt
  rw [mapM_treatments] at values exchanges
  rw [run_synchronize]
  exact ⟨congrArg collected values, exchanges⟩

/-- The models can be treated one after the other, whichever may have to wait. -/
theorem exists_treats (synchronizer : Synchronizer) (waits : Nat → Prop) (mode : SyncMode)
    (server : Server liveSchema σ) (state : σ) :
    ∃ trace results, synchronizer.Treats waits mode server state trace results ∧
      collected results = (attempt (synchronizer.synchronize mode) server state).value ∧
      trace.map (·.2) = (attempt (synchronizer.synchronize mode) server state).exchanges := by
  obtain ⟨trace, joined, exchanges⟩ := Dialogue.joined_mapM waits
    (fun model => ExceptT.run (synchronizer.syncModel mode model)) synchronizer.registry.models
    server state
  rw [run_synchronize]
  exact ⟨trace, _, joined, rfl, exchanges⟩

theorem mapM_id_ok (reports : List ModelReport) :
    (reports.map (Except.ok (ε := SchemaError))).mapM id = .ok reports := by
  induction reports with
  | nil => rfl
  | cons report reports ih =>
      rw [List.map_cons, List.mapM_cons, ih]
      rfl

theorem collected_ok (reports : List ModelReport) :
    collected (reports.map .ok) = .ok { models := reports } := by
  rw [collected, mapM_id_ok]
  rfl

theorem collected_error (reports : List ModelReport) (error : SchemaError)
    (after : List (Except SchemaError ModelReport)) :
    collected (reports.map .ok ++ .error error :: after) = .error error := by
  rw [collected, List.mapM_append, mapM_id_ok, List.mapM_cons]
  rfl

/-- Either all models have been treated, or there is a first that has failed. -/
theorem all_ok_or_first_error (results : List (Except SchemaError ModelReport)) :
    (∃ reports : List ModelReport, results = reports.map .ok) ∨
      ∃ (reports : List ModelReport) (error : SchemaError) (after : _),
        results = reports.map .ok ++ .error error :: after := by
  induction results with
  | nil => exact .inl ⟨[], rfl⟩
  | cons result results ih =>
      cases result with
      | error error => exact .inr ⟨[], error, results, rfl⟩
      | ok report =>
          rcases ih with ⟨reports, rest⟩ | ⟨reports, error, after, rest⟩
          · exact .inl ⟨report :: reports, congrArg _ rest⟩
          · exact .inr ⟨report :: reports, error, after, congrArg _ rest⟩

theorem collected_eq_ok_iff {results : List (Except SchemaError ModelReport)}
    {report : SyncReport} : collected results = .ok report ↔ results = report.models.map .ok := by
  constructor
  · intro succeeded
    rcases all_ok_or_first_error results with ⟨reports, all⟩ | ⟨reports, error, after, first⟩
    · rw [all, collected_ok] at succeeded
      cases succeeded
      exact all
    · rw [first, collected_error] at succeeded
      cases succeeded
  · intro all
    rw [all, collected_ok]

theorem collected_eq_error_iff {results : List (Except SchemaError ModelReport)}
    {error : SchemaError} :
    collected results = .error error ↔
      ∃ (reports : List ModelReport) (after : _),
        results = reports.map .ok ++ .error error :: after := by
  constructor
  · intro failed
    rcases all_ok_or_first_error results with ⟨reports, all⟩ | ⟨reports, first, after, split⟩
    · rw [all, collected_ok] at failed
      cases failed
    · rw [split, collected_error] at failed
      cases failed
      exact ⟨reports, after, split⟩
  · rintro ⟨reports, after, split⟩
    rw [split, collected_error]

end SqlMapper.Schema
