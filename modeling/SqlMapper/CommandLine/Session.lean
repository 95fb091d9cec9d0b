import SqlMapper.CommandLine.Log
import SqlMapper.CommandLine.Options
import SqlMapper.Filter.Document
import SqlMapper.Model.Document
import SqlMapper.Prepared

/-!
One run of the program.

A run asks for the contents of files and ends with what is printed, what is complained about and
the exit code. What was printed before a failure stays printed.
-/

namespace SqlMapper.CommandLine

open Schema

def files : Interface where
  Request := String
  Answer := fun _ => Except Unreadable String

def treeServer (tree : FileTree) : Server files Unit :=
  fun (path : String) state => (tree.read path, state)

inductive Failure where
  | schema (error : SchemaError)
  | compile (error : CompileError)
  | filter

namespace Failure

def message? : Failure → Option String
  | .schema .malformed | .filter => none
  | .schema error => some error.message
  | .compile error => some error.message

def cause? : Failure → Option String
  | .schema error => error.cause?
  | .compile _ | .filter => none

/-- A text with all lines but the first set in. -/
def indented (text : String) : String :=
  String.ofList (text.toList.flatMap fun char =>
    if char = '\n' then ['\n', ' ', ' ', ' ', ' '] else [char])

def report? (failure : Failure) : Option String :=
  failure.message?.map fun message =>
    "Error: " ++ message ++ "\n" ++
      match failure.cause? with
      | some cause => "\nCaused by:\n    " ++ indented cause ++ "\n"
      | none => ""

end Failure

structure Printed where
  text : String
  failure : Option Failure := none

def Printed.nothing (failure : Failure) : Printed := { text := "", failure := some failure }

def readFile (path : String) : Dialogue files (Except SchemaError String) := do
  match ← files.ask path with
  | .ok text => return .ok text
  | .error reason => return .error (.unreadable path reason)

def registryOf (text : String) : Except SchemaError Registry :=
  match Declarations.ofText? text with
  | none => .error .malformed
  | some declarations =>
    match declarations.registry with
    | .ok registry => .ok registry
    | .error error => .error (.declaration error)

def snapshotOf (text : String) : Except SchemaError Snapshot :=
  match Snapshot.ofText? text with
  | some snapshot => .ok snapshot
  | none => .error .malformed

def printDdl (registry : Registry) (rebuild : Bool) : Printed :=
  let print := fun (model : Model) =>
    "-- " ++ model.name ++ "\n" ++
      (if rebuild then (Ddl.dropTable registry.settings model).render .sqlServer ++ "\n" else "") ++
      (Ddl.createTable registry.settings model).render .sqlServer ++ "\n\n"
  { text := String.join (registry.models.map print) }

def compared (registry : Registry) (snapshot : Snapshot) : Except SchemaError SyncReport :=
  let synchronizer : Synchronizer := { registry }
  (((synchronizer.synchronize .check).calls (.snapshot snapshot)).run rehearsal []).value

def printReport (verbose : Bool) (report : ModelReport) : String :=
  LogLine.renderAll verbose (LogLine.reminders report) ++
    if report.needsChanges then
      "-- " ++ report.model ++ " (" ++ report.action.name ++ ")\n" ++
        String.join (report.changes.map fun change => "--   " ++ change.describe ++ "\n") ++
        String.join (report.statements.map fun sql => sql.render .sqlServer ++ "\n\n")
    else ""

def printDiff (registry : Registry) (verbose : Bool) (snapshot : Snapshot) : Printed :=
  match compared registry snapshot with
  | .error error => .nothing (.schema error)
  | .ok report =>
    { text :=
        LogLine.renderAll verbose
          (LogLine.started .check :: report.models.flatMap LogLine.ofReport) ++
        String.join (report.models.map (printReport verbose)) ++
        if report.isActual then LogLine.upToDate.render else "" }

def filterOf (registry : Registry) (model text : String) : Except Failure Filter := do
  let model ← (registry.model model).mapError .compile
  match Json.parse? text with
  | none => throw .filter
  | some document => (Filter.ofJsonFor model document).mapError .compile

def queryOf (registry : Registry) (model : String) (filter order : Option String)
    (skip limit : Option UInt64) : Except Failure Prepared := do
  let filter ← match filter with
    | some text => filterOf registry model text
    | none => pure []
  let order := (order.map OrderTerm.splitList).getD []
  (Prepared.select registry model { filter, order, skip, limit }).mapError .compile

def printQuery (query : Prepared) : String :=
  query.text ++ "\n" ++
    String.join (query.parameters.bound.map fun parameter =>
      "-- @" ++ parameter.name ++ " = " ++ parameter.value.toJson.compact ++ "\n")

def perform (registry : Registry) (verbose : Bool) : Task → Dialogue files Printed
  | .ddl rebuild => return printDdl registry rebuild
  | .diff path => do
    match (← readFile path) >>= snapshotOf with
    | .error error => return .nothing (.schema error)
    | .ok snapshot => return printDiff registry verbose snapshot
  | .compile model filter order skip limit =>
    match queryOf registry model filter order skip limit with
    | .error failure => return .nothing failure
    | .ok query => return { text := printQuery query }

def work (options : Options) : Dialogue files Printed := do
  match (← readFile options.models) >>= registryOf with
  | .error error => return .nothing (.schema error)
  | .ok registry =>
    let printed ← perform registry options.verbose options.task
    let line := LogLine.loaded options.models registry.models.length
    return { printed with text := line.render ++ printed.text }

/-- How a run ended: the exit code, what was printed, and what was complained about. A complaint
without text is one that the program does not word. -/
structure Exit where
  code : UInt32
  printed : String
  complaint : Option String := some ""
deriving DecidableEq, Repr

def session (environment : Environment) (arguments : List String) : Dialogue files Exit :=
  match Request.ofArguments environment arguments with
  | .complaint => return { code := 2, printed := "", complaint := none }
  | .display text => return { code := 0, printed := text }
  | .work options => do
    let printed ← work options
    match printed.failure with
    | none => return { code := 0, printed := printed.text }
    | some failure => return { code := 1, printed := printed.text, complaint := failure.report? }

end SqlMapper.CommandLine
