import SqlMapper.Schema.Catalog
import SqlMapper.Schema.Ddl

/-!
Bringing the tables of a database in line with the models.

Models are treated side by side; while one waits for an answer, others go on. For each of them the
table is looked at, a report says what has to be done, and the statements of the report are carried
out one after the other if the mode says so. A model that fails does not keep the others from being
treated. `Synchronizer.Treats` tells in what ways requests of different models can follow one
another; `Synchronizer.synchronize` is the way they do if all answers are there at once.
-/

namespace SqlMapper.Schema

inductive SyncMode where
  | check
  | apply
  | rebuild
deriving DecidableEq, Repr, Inhabited

namespace SyncMode

def name : SyncMode → String
  | .check => "check"
  | .apply => "apply"
  | .rebuild => "rebuild"

/-- The mode that a word names, whatever the case of its letters. The refusal shows the word in
small letters. -/
def ofWord (word : String) : Except String SyncMode :=
  match [check, apply, rebuild].find? fun mode => mode.name == Text.lowerAscii word with
  | some mode => .ok mode
  | none => .error ("unknown sync mode '" ++ Text.lowerAscii word ++ "'")

end SyncMode

inductive Action where
  | upToDate
  | create
  | alter
  | rebuild
deriving DecidableEq, Repr, Inhabited

def Action.name : Action → String
  | .upToDate => "UpToDate"
  | .create => "Create"
  | .alter => "Alter"
  | .rebuild => "Rebuild"

structure ModelReport where
  model : String
  table : String
  action : Action
  changes : List Change := []
  statements : List Sql := []
  mismatches : List Mismatch := []
  applied : Bool := false

namespace ModelReport

def needsChanges (report : ModelReport) : Bool :=
  report.action != .upToDate

def hasMismatches (report : ModelReport) : Bool :=
  !report.mismatches.isEmpty

def rebuilding (ddl : Settings) (model : Model) : ModelReport where
  model := model.name
  table := model.tableName
  action := .rebuild
  statements := [Ddl.dropTable ddl model, Ddl.createTable ddl model]

def creating (ddl : Settings) (model : Model) : ModelReport where
  model := model.name
  table := model.tableName
  action := .create
  statements := [Ddl.createTable ddl model]

def comparing (ddl : Settings) (model : Model) (facts : TableFacts) : ModelReport :=
  let difference := diff model facts
  { model := model.name
    table := model.tableName
    action := if difference.changes.isEmpty then .upToDate else .alter
    changes := difference.changes
    statements := (Ddl.changes? ddl model difference.changes).toList
    mismatches := difference.mismatches }

end ModelReport

structure SyncReport where
  models : List ModelReport

namespace SyncReport

def needsChanges (report : SyncReport) : Bool :=
  report.models.any ModelReport.needsChanges

def hasMismatches (report : SyncReport) : Bool :=
  report.models.any ModelReport.hasMismatches

def isActual (report : SyncReport) : Bool :=
  !report.needsChanges && !report.hasMismatches

def statements (report : SyncReport) : List Sql :=
  report.models.flatMap (·.statements)

end SyncReport

inductive SchemaRequest where
  /-- The columns of a table; none mean that the table does not exist. -/
  | columns (table : String)
  | indexes (table : String)
  | execute (table : String) (statement : Sql)

def liveSchema : Interface where
  Request := SchemaRequest
  Answer
    | .columns _ => Except SchemaError (List StoredColumn)
    | .indexes _ => Except SchemaError (List IndexEntry)
    | .execute _ _ => Answer

abbrev SchemaOperation (α : Type) := ExceptT SchemaError (Dialogue liveSchema) α

namespace SchemaOperation

def columns (table : String) : SchemaOperation (List StoredColumn) :=
  ExceptT.mk (liveSchema.ask (.columns table))

def indexes (table : String) : SchemaOperation (List IndexEntry) :=
  ExceptT.mk (liveSchema.ask (.indexes table))

def executed (table : String) (statement : Sql) : Answer → Except SchemaError Unit
  | .ok _ => .ok ()
  | .error rejection => .error (.execution table (statement.render .sqlServer) rejection)

def execute (table : String) (statement : Sql) : SchemaOperation Unit :=
  ExceptT.mk (executed table statement <$>
    liveSchema.ask (.execute table statement))

end SchemaOperation

/-- Synchronizes the tables of registered models. The settings `ddl` are those under which
statements are written. -/
structure Synchronizer where
  registry : Registry
  ddl : Settings := registry.settings

namespace Synchronizer

open SchemaOperation

def survey (synchronizer : Synchronizer) (mode : SyncMode) (model : Model) :
    SchemaOperation ModelReport := do
  if mode = .rebuild then return .rebuilding synchronizer.ddl model
  let found ← columns model.tableName
  if found.isEmpty then return .creating synchronizer.ddl model
  let entries ← indexes model.tableName
  return .comparing synchronizer.ddl model { columns := found, indexes := entries }

def syncModel (synchronizer : Synchronizer) (mode : SyncMode) (model : Model) :
    SchemaOperation ModelReport := do
  let report ← synchronizer.survey mode model
  if mode = .check ∨ report.statements.isEmpty then return report
  report.statements.forM (execute report.table)
  return { report with applied := true }

/-- The treatments of all models, in the order of their names. -/
def treatments (synchronizer : Synchronizer) (mode : SyncMode) :
    List (Dialogue liveSchema (Except SchemaError ModelReport)) :=
  synchronizer.registry.models.map fun model => (synchronizer.syncModel mode model).run

/-- A way in which all models are treated side by side: what is exchanged with the server, with
the places of the models whose turns these are, and what comes of each model. The treatments at
places where `waits` holds may have to wait for answers. -/
def Treats {σ : Type} (synchronizer : Synchronizer) (waits : Nat → Prop) (mode : SyncMode)
    (server : Server liveSchema σ) (state : σ) (trace : List (Nat × Exchange liveSchema))
    (results : List (Except SchemaError ModelReport)) : Prop :=
  Dialogue.Joined waits server (synchronizer.treatments mode) state trace results

/-- The result when all models have been treated: the first error, if there is one. -/
def collected (results : List (Except SchemaError ModelReport)) : Except SchemaError SyncReport :=
  (results.mapM id).map SyncReport.mk

/-- Treats all models where no answer has to be waited for. Each of them, once begun, then comes to
its end before the next is begun. -/
def synchronize (synchronizer : Synchronizer) (mode : SyncMode) : SchemaOperation SyncReport :=
  ExceptT.mk (collected <$> synchronizer.registry.models.mapM fun model =>
    (synchronizer.syncModel mode model).run)

def isActual (synchronizer : Synchronizer) : SchemaOperation Bool := do
  return (← synchronizer.synchronize .check).isActual

/-- Creates all tables that do not exist. The first failure ends the work. -/
def createAll (synchronizer : Synchronizer) : SchemaOperation Unit :=
  synchronizer.registry.models.forM fun model =>
    execute model.tableName (Ddl.createTable synchronizer.ddl model)

/-- Drops all tables that exist. The first failure ends the work. -/
def dropAll (synchronizer : Synchronizer) : SchemaOperation Unit :=
  synchronizer.registry.models.forM fun model =>
    execute model.tableName (Ddl.dropTable synchronizer.ddl model)

end Synchronizer

inductive FactSource where
  | snapshot (facts : Snapshot)
  | catalog (schema : String)

/-- The calls by which a database answers a request. Recorded facts need none. -/
def FactSource.calls (source : FactSource) :
    (request : SchemaRequest) → Dialogue database (liveSchema.Answer request)
  | .columns table =>
    match source with
    | .snapshot facts => .done (.ok (facts.facts table).columns)
    | .catalog schema => Catalog.columns schema table
  | .indexes table =>
    match source with
    | .snapshot facts => .done (.ok (facts.facts table).indexes)
    | .catalog schema => Catalog.indexes schema table
  | .execute _ statement =>
    database.ask { text := statement.render .sqlServer }

def SchemaOperation.calls {α : Type} (source : FactSource) (operation : SchemaOperation α) :
    Dialogue database (Except SchemaError α) :=
  Dialogue.interpret source.calls operation.run

end SqlMapper.Schema
