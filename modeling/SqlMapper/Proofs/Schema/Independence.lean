import Mathlib.Data.List.Forall2
import SqlMapper.Proofs.Model.Registering
import SqlMapper.Proofs.Schema.Treating

namespace SqlMapper.Schema

/-! Models do not get into each other's way.

Where answers depend on requests alone, a model fares as it would if no other were
registered, in whatever order the models get their turns.
-/

open Dialogue (attempt attempt_bind_ok attempt_bind_error steady Steady outcome exchangesAt)
open Synchronizer (collected)

variable {σ : Type} {server : Server liveSchema σ} {state : σ} {synchronizer : Synchronizer}
  {mode : SyncMode} {model : Model} {settings : Settings} {declared : List Model}
  {reply : (request : liveSchema.Request) → liveSchema.Answer request} {ddl : Settings}
  {fate : Model → Except SchemaError ModelReport} {models : List Model}

/-! How a single model fares. -/

/-- What is known of a table when the report on it is written. -/
def learnt (reply : (request : liveSchema.Request) → liveSchema.Answer request) (mode : SyncMode)
    (table : String) : Except SchemaError TableFacts :=
  if mode = .rebuild then .ok {}
  else
    match (reply (.columns table) : Except SchemaError (List StoredColumn)) with
    | .error error => .error error
    | .ok columns =>
      if columns.isEmpty then .ok {}
      else
        match (reply (.indexes table) : Except SchemaError (List IndexEntry)) with
        | .error error => .error error
        | .ok indexes => .ok { columns, indexes }

/-- What is executed for a model and what comes of it.  Either the look at its table fails,
or all statements that are due are taken, or one of them is the first to be refused. -/
inductive Fares (reply : (request : liveSchema.Request) → liveSchema.Answer request)
    (ddl : Settings) (mode : SyncMode) (model : Model) :
    List Sql → Except SchemaError ModelReport → Prop where
  | unread (error : SchemaError) (failed : learnt reply mode model.tableName = .error error) :
      Fares reply ddl mode model [] (.error error)
  | finished (facts : TableFacts) (known : learnt reply mode model.tableName = .ok facts)
      (taken : ∀ statement ∈ (planned ddl mode model facts).due mode,
        ∃ rows, reply (.execute model.tableName statement) = .ok rows) :
      Fares reply ddl mode model ((planned ddl mode model facts).due mode)
        (.ok ((planned ddl mode model facts).closed mode))
  | stopped {before after : List Sql} {statement : Sql} {rejection : Rejection}
      (facts : TableFacts) (known : learnt reply mode model.tableName = .ok facts)
      (split : (planned ddl mode model facts).due mode = before ++ statement :: after)
      (taken : ∀ earlier ∈ before, ∃ rows, reply (.execute model.tableName earlier) = .ok rows)
      (refused : reply (.execute model.tableName statement) = .error rejection) :
      Fares reply ddl mode model (before ++ [statement])
        (.error (.execution model.tableName (statement.render .sqlServer) rejection))

theorem survey_outcome (reply : (request : liveSchema.Request) → liveSchema.Answer request)
    (synchronizer : Synchronizer) (mode : SyncMode) (model : Model) :
    (attempt (synchronizer.survey mode model) (steady reply) ()).value =
      (learnt reply mode model.tableName).map (planned synchronizer.ddl mode model) := by
  by_cases rebuilt : mode = .rebuild
  · subst rebuilt
    rfl
  rw [survey_eq rebuilt, learnt, if_neg rebuilt]
  cases listed : (reply (.columns model.tableName) : Except SchemaError (List StoredColumn)) with
  | error error =>
      rw [attempt_bind_error (attempt_columns (Prod.ext listed rfl))]
      rfl
  | ok found =>
      rw [attempt_bind_ok (attempt_columns (Prod.ext listed rfl))]
      by_cases missing : found.isEmpty
      · simp only [if_pos missing]
        simp [planned, rebuilt, Except.map]
        rfl
      simp only [if_neg missing]
      cases described :
        (reply (.indexes model.tableName) : Except SchemaError (List IndexEntry)) with
      | error error =>
          rw [attempt_bind_error (attempt_indexes (Prod.ext described rfl))]
          rfl
      | ok entries =>
          rw [attempt_bind_ok (attempt_indexes (Prod.ext described rfl))]
          simp [planned, rebuilt, missing, Except.map]
          rfl

theorem CarriesOut.fares {facts : TableFacts} {exchanges : List (Exchange liveSchema)}
    {result : Except SchemaError Unit}
    (carried : CarriesOut model.tableName ((planned ddl mode model facts).due mode) exchanges
      result)
    (known : learnt reply mode model.tableName = .ok facts)
    (answered : ∀ exchange ∈ exchanges, exchange.answer = reply exchange.request) :
    ∃ statements,
      Fares reply ddl mode model statements
          (result.map fun _ => (planned ddl mode model facts).closed mode) ∧
        statementsOf exchanges = statements.map (model.tableName, ·) := by
  have taking {statements : List Sql}
      (taken : ∀ statement ∈ statements, ∃ rows, ({
        request := .execute model.tableName statement
        answer := .ok rows } : Exchange liveSchema) ∈ exchanges) :
      ∀ statement ∈ statements, ∃ rows, reply (.execute model.tableName statement) = .ok rows := by
    intro statement member
    obtain ⟨rows, given⟩ := taken statement member
    exact ⟨rows, (answered _ given).symm⟩
  rcases carried.ended with ⟨all, succeeded, taken⟩ |
    ⟨before, last, after, rejection, split, upToLast, failed, taken, refused⟩
  · rw [succeeded]
    exact ⟨_, .finished facts known (taking taken), all⟩
  · rw [failed]
    exact ⟨_, .stopped facts known split (taking taken) (answered _ refused).symm, upToLast⟩

theorem Treated.fares {looked : Ending liveSchema σ (Except SchemaError ModelReport)}
    {exchanges : List (Exchange liveSchema)} {value : Except SchemaError ModelReport}
    (ended : Treated mode looked exchanges value) (asked : statementsOf looked.exchanges = [])
    (found : looked.value = (learnt reply mode model.tableName).map (planned ddl mode model))
    (answered : ∀ exchange ∈ exchanges, exchange.answer = reply exchange.request) :
    ∃ statements, Fares reply ddl mode model statements value ∧
      statementsOf exchanges = statements.map (model.tableName, ·) := by
  cases ended with
  | unread reason failed =>
      cases known : learnt reply mode model.tableName with
      | error error =>
          rw [failed, known] at found
          cases found
          exact ⟨[], .unread _ known, asked⟩
      | ok facts =>
          rw [failed, known] at found
          cases found
  | @carried sent result report written carried =>
      cases known : learnt reply mode model.tableName with
      | error error =>
          rw [written, known] at found
          cases found
      | ok facts =>
          rw [written, known] at found
          cases found
          rw [(planned_head ddl mode model facts).2.1] at carried
          rw [statementsOf_append, asked, List.nil_append]
          exact carried.fares known fun exchange member =>
            answered exchange (List.mem_append_right _ member)

/-- The treatment of a model where answers depend on requests alone. -/
def treatment (reply : (request : liveSchema.Request) → liveSchema.Answer request)
    (synchronizer : Synchronizer) (mode : SyncMode) (model : Model) :
    Ending liveSchema Unit (Except SchemaError ModelReport) :=
  outcome reply (ExceptT.run (synchronizer.syncModel mode model))

theorem fares (reply : (request : liveSchema.Request) → liveSchema.Answer request)
    (synchronizer : Synchronizer) (mode : SyncMode) (model : Model) :
    ∃ statements,
      Fares reply synchronizer.ddl mode model statements
          (treatment reply synchronizer mode model).value ∧
        statementsOf (treatment reply synchronizer mode model).exchanges =
          statements.map (model.tableName, ·) := by
  refine (treated synchronizer mode model (steady reply) ()).fares
    (surveyed synchronizer mode model (steady reply) ()).asked
    (survey_outcome reply synchronizer mode model) ?_
  intro exchange member
  obtain ⟨_, given⟩ := Dialogue.answered member
  exact given

theorem Fares.named {statements : List Sql} {report : ModelReport}
    (fared : Fares reply ddl mode model statements (.ok report)) : report.model = model.name := by
  cases fared with
  | finished facts known taken => exact (planned_head ddl mode model facts).1

/-! How the fates of models make up the result. -/

theorem forall₂_of_reports {reports : List ModelReport} :
    models.map fate = reports.map .ok ↔
      List.Forall₂ (fun model report => fate model = .ok report) models reports := by
  rw [← List.forall₂_eq_eq_eq, List.forall₂_map_left_iff, List.forall₂_map_right_iff]

theorem first_of_error {error : SchemaError} :
    (∃ (reports : List ModelReport) (rest : _),
        models.map fate = reports.map .ok ++ .error error :: rest) ↔
      ∃ before model after, models = before ++ model :: after ∧
        (∀ earlier ∈ before, ∃ report, fate earlier = .ok report) ∧ fate model = .error error := by
  constructor
  · rintro ⟨reports, rest, split⟩
    obtain ⟨before, last, same, first, second⟩ := List.map_eq_append_iff.mp split
    obtain ⟨model, after, cut, failed, _⟩ := List.map_eq_cons_iff.mp second
    refine ⟨before, model, after, cut ▸ same, fun earlier member => ?_, failed⟩
    have held : fate earlier ∈ reports.map .ok := first ▸ List.mem_map_of_mem member
    obtain ⟨report, _, done⟩ := List.mem_map.mp held
    exact ⟨report, done.symm⟩
  · rintro ⟨before, model, after, split, done, failed⟩
    rcases all_ok_or_first_error (before.map fate) with ⟨reports, all⟩ |
      ⟨reports, other, rest, first⟩
    · exact ⟨reports, after.map fate, by rw [split, List.map_append, all, List.map_cons, failed]⟩
    · have held : .error other ∈ before.map fate := first ▸ by simp
      obtain ⟨earlier, member, early⟩ := List.mem_map.mp held
      obtain ⟨report, succeeded⟩ := done earlier member
      rw [succeeded] at early
      cases early

/-- The synchronizer of a registry that holds a single model. -/
def Synchronizer.only (synchronizer : Synchronizer) (model : Model) : Synchronizer where
  registry := Registry.single synchronizer.registry.settings model
  ddl := synchronizer.ddl

theorem synchronize_of_steady (steadily : Steady server reply) (synchronizer : Synchronizer)
    (mode : SyncMode) (state : σ) :
    (attempt (synchronizer.synchronize mode) server state).value =
        collected (synchronizer.registry.models.map fun model =>
          (treatment reply synchronizer mode model).value) ∧
      (attempt (synchronizer.synchronize mode) server state).exchanges =
        synchronizer.registry.models.flatMap fun model =>
          (treatment reply synchronizer mode model).exchanges := by
  obtain ⟨values, exchanges⟩ := Dialogue.run_of_steady steadily
    (synchronizer.registry.models.mapM fun model =>
      ExceptT.run (synchronizer.syncModel mode model)) state
  rw [Dialogue.outcome_mapM] at values exchanges
  rw [run_synchronize]
  exact ⟨congrArg collected values, exchanges⟩

theorem only_of_steady (steadily : Steady server reply) (synchronizer : Synchronizer)
    (mode : SyncMode) (model : Model) (state : σ) :
    (attempt ((synchronizer.only model).synchronize mode) server state).value =
        (treatment reply synchronizer mode model).value.map (fun report => { models := [report] }) ∧
      (attempt ((synchronizer.only model).synchronize mode) server state).exchanges =
        (treatment reply synchronizer mode model).exchanges := by
  obtain ⟨value, exchanges⟩ :=
    synchronize_of_steady steadily (synchronizer.only model) mode state
  constructor
  · rw [value]
    change collected [(treatment reply synchronizer mode model).value] = _
    cases (treatment reply synchronizer mode model).value with
    | error error => rfl
    | ok report => rfl
  · rw [exchanges]
    exact List.append_nil _

theorem only_ok_iff (steadily : Steady server reply) {report : ModelReport} :
    (attempt ((synchronizer.only model).synchronize mode) server state).value =
        .ok { models := [report] } ↔
      (treatment reply synchronizer mode model).value = .ok report := by
  rw [(only_of_steady steadily synchronizer mode model state).1]
  cases (treatment reply synchronizer mode model).value <;> simp [Except.map]

theorem only_error_iff (steadily : Steady server reply) {error : SchemaError} :
    (attempt ((synchronizer.only model).synchronize mode) server state).value = .error error ↔
      (treatment reply synchronizer mode model).value = .error error := by
  rw [(only_of_steady steadily synchronizer mode model state).1]
  cases (treatment reply synchronizer mode model).value <;> simp [Except.map]

theorem only_succeeds_iff (steadily : Steady server reply) :
    (∃ report, (attempt ((synchronizer.only model).synchronize mode) server state).value =
        .ok report) ↔
      ∃ report, (treatment reply synchronizer mode model).value = .ok report := by
  rw [(only_of_steady steadily synchronizer mode model state).1]
  cases (treatment reply synchronizer mode model).value <;> simp [Except.map]

/-- A model is accepted where no other is registered. -/
theorem only_of_registered
    (registered : Registry.ofModels settings declared = .ok synchronizer.registry)
    (member : model ∈ synchronizer.registry.models) :
    ∃ declaration ∈ declared,
      Registry.ofModels settings [declaration] = .ok (synchronizer.only model).registry := by
  obtain ⟨declaration, listed, accepted⟩ := Registry.declared_of_registered registered member
  refine ⟨declaration, listed, ?_⟩
  rw [Registry.ofModels_singleton accepted, Synchronizer.only,
    (Registry.grownFrom_ofModels registered).settled]

theorem fares_only (steadily : Steady server reply) (synchronizer : Synchronizer)
    (mode : SyncMode) (model : Model) (state : σ) :
    ∃ statements result, Fares reply synchronizer.ddl mode model statements result ∧
      statementsOf (attempt ((synchronizer.only model).synchronize mode) server state).exchanges =
        statements.map (model.tableName, ·) ∧
      (attempt ((synchronizer.only model).synchronize mode) server state).value =
        result.map fun report => { models := [report] } := by
  obtain ⟨value, exchanges⟩ := only_of_steady steadily synchronizer mode model state
  obtain ⟨statements, fared, sent⟩ := fares reply synchronizer mode model
  exact ⟨statements, _, fared, by rw [exchanges, sent], value⟩

theorem succeeds_iff_all_alone (steadily : Steady server reply) {reports : List ModelReport} :
    (attempt (synchronizer.synchronize mode) server state).value = .ok { models := reports } ↔
      List.Forall₂ (fun model report => report.model = model.name ∧
        (attempt ((synchronizer.only model).synchronize mode) server state).value =
          .ok { models := [report] }) synchronizer.registry.models reports := by
  rw [(synchronize_of_steady steadily synchronizer mode state).1, collected_eq_ok_iff,
    forall₂_of_reports]
  refine ⟨fun all => all.imp fun model report done => ?_,
    fun all => all.imp fun model report done => (only_ok_iff steadily).mp done.2⟩
  obtain ⟨statements, fared, _⟩ := fares reply synchronizer mode model
  rw [done] at fared
  exact ⟨fared.named, (only_ok_iff steadily).mpr done⟩

theorem fails_iff_first_alone (steadily : Steady server reply) {error : SchemaError} :
    (attempt (synchronizer.synchronize mode) server state).value = .error error ↔
      ∃ before model after, synchronizer.registry.models = before ++ model :: after ∧
        (∀ earlier ∈ before, ∃ report,
          (attempt ((synchronizer.only earlier).synchronize mode) server state).value =
            .ok report) ∧
        (attempt ((synchronizer.only model).synchronize mode) server state).value =
          .error error := by
  rw [(synchronize_of_steady steadily synchronizer mode state).1, collected_eq_error_iff,
    first_of_error]
  simp only [only_error_iff steadily, only_succeeds_iff steadily]

/-- The exchanges in which the models of a synchronizer are treated while they take turns in any
order, and what comes of each model. -/
abbrev SideBySide (synchronizer : Synchronizer) (mode : SyncMode) (server : Server liveSchema σ)
    (state : σ) (trace : List (Nat × Exchange liveSchema))
    (results : List (Except SchemaError ModelReport)) : Prop :=
  synchronizer.Treats (fun _ => True) mode server state trace results

theorem SideBySide.alone {trace : List (Nat × Exchange liveSchema)}
    {results : List (Except SchemaError ModelReport)} (steadily : Steady server reply)
    (treats : SideBySide synchronizer mode server state trace results) :
    collected results = (attempt (synchronizer.synchronize mode) server state).value ∧
      ∀ place model, synchronizer.registry.models[place]? = some model →
        exchangesAt place trace =
          (attempt ((synchronizer.only model).synchronize mode) server state).exchanges := by
  obtain ⟨values, exchanges⟩ := Dialogue.Joined.alone steadily treats
  refine ⟨?_, fun place model found => ?_⟩
  · rw [(synchronize_of_steady steadily synchronizer mode state).1, values,
      Synchronizer.treatments, List.map_map]
    rfl
  · rw [exchanges place (ExceptT.run (synchronizer.syncModel mode model))
      (by rw [Synchronizer.treatments, List.getElem?_map, found]; rfl)]
    exact (only_of_steady steadily synchronizer mode model state).2.symm

theorem exists_sideBySide (synchronizer : Synchronizer) (mode : SyncMode)
    (server : Server liveSchema σ) (state : σ) :
    ∃ trace results, SideBySide synchronizer mode server state trace results ∧
      trace.map (·.2) = (attempt (synchronizer.synchronize mode) server state).exchanges := by
  obtain ⟨trace, results, treats, _, exchanges⟩ :=
    exists_treats synchronizer (fun _ => True) mode server state
  exact ⟨trace, results, treats, exchanges⟩

/-- Each model is treated as if it were alone, whatever turns the models take, and the first
that fails decides.  Treating one model after the other is a way of taking turns. -/
theorem models_independent
    (registered : Registry.ofModels settings declared = .ok synchronizer.registry)
    (steadily : Steady server reply) (mode : SyncMode) (state : σ) :
    let models := synchronizer.registry.models
    let treated := attempt (synchronizer.synchronize mode) server state
    let alone model := attempt ((synchronizer.only model).synchronize mode) server state
    (models.Pairwise fun left right => left.name < right.name) ∧
      (∀ model ∈ models, ∃ declaration ∈ declared,
        Registry.ofModels settings [declaration] = .ok (synchronizer.only model).registry) ∧
      treated.exchanges = models.flatMap (fun model => (alone model).exchanges) ∧
      (∀ model ∈ models, ∃ statements result,
        Fares reply synchronizer.ddl mode model statements result ∧
          statementsOf (alone model).exchanges = statements.map (model.tableName, ·) ∧
          (alone model).value = result.map fun report => { models := [report] }) ∧
      (∀ reports, treated.value = .ok { models := reports } ↔
        List.Forall₂ (fun model report => report.model = model.name ∧
          (alone model).value = .ok { models := [report] }) models reports) ∧
      (∀ error, treated.value = .error error ↔
        ∃ before model after, models = before ++ model :: after ∧
          (∀ earlier ∈ before, ∃ report, (alone earlier).value = .ok report) ∧
          (alone model).value = .error error) ∧
      (∀ trace results, SideBySide synchronizer mode server state trace results →
        collected results = treated.value ∧ ∀ place model, models[place]? = some model →
          exchangesAt place trace = (alone model).exchanges) ∧
      ∃ trace results, SideBySide synchronizer mode server state trace results ∧
        trace.map (·.2) = treated.exchanges := by
  intro models treated alone
  have exchanged := (synchronize_of_steady steadily synchronizer mode state).2
  have single model := (only_of_steady steadily synchronizer mode model state).2
  refine ⟨Registry.sorted_of_registered registered,
    fun model member => only_of_registered registered member, ?_,
    fun model member => fares_only steadily synchronizer mode model state,
    fun reports => succeeds_iff_all_alone steadily, fun error => fails_iff_first_alone steadily,
    fun trace results interleaved => interleaved.alone steadily,
    exists_sideBySide synchronizer mode server state⟩
  exact exchanged.trans (congrArg (List.flatMap · _) (funext fun model => (single model).symm))

def draft : Model where
  name := "Draft"
  fields := [{ name := "text", type := .text }]

def letter : Model where
  name := "Letter"
  fields := [{ name := "sent", type := .boolean }]

def letters : Synchronizer where
  registry :=
    { settings := {}, table := (SortedTable.empty.insert "Letter" letter).insert "Draft" draft }

def forbidden : Rejection := { message := "permission denied" }

/-- There are no tables, and drafts are refused. -/
def refusingDrafts : (request : liveSchema.Request) → liveSchema.Answer request
  | .columns _ => .ok []
  | .indexes _ => .ok []
  | .execute table _ => if table = "Draft" then .error forbidden else .ok []

/-- The refused table of drafts decides the result, and the table of letters is created. -/
theorem models_independent_letters :
    let treated := attempt (letters.synchronize .apply) (steady refusingDrafts) ()
    treated.value =
        .error (.execution "Draft" ((Ddl.createTable {} draft).render .sqlServer) forbidden) ∧
      statementsOf treated.exchanges =
        [("Draft", Ddl.createTable {} draft), ("Letter", Ddl.createTable {} letter)] := by
  have registered : Registry.ofModels {} [letter, draft] = .ok letters.registry := rfl
  have steadily : Steady (steady refusingDrafts) refusingDrafts := fun _ _ => rfl
  obtain ⟨_, _, exchanged, _, _, failing, _⟩ :=
    models_independent registered steadily .apply ()
  constructor
  · exact (failing _).mpr ⟨[], draft, [letter], rfl, fun _ member => absurd member
      List.not_mem_nil, rfl⟩
  · rw [exchanged]
    rfl

end SqlMapper.Schema
