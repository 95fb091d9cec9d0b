import SqlMapper.CommandLine.Help

/-!
The commands of the program and what their arguments ask for.
-/

namespace SqlMapper.CommandLine

inductive Task where
  | ddl (rebuild : Bool)
  | diff (snapshot : String)
  | compile (model : String) (filter order : Option String) (skip limit : Option UInt64)
deriving DecidableEq, Repr

structure Options where
  models : String
  verbose : Bool
  task : Task
deriving DecidableEq, Repr

def version : String := "tsql-migrate 0.1.0"

def helpOption : OptionSpec where
  name := "help"
  letter := some 'h'
  kind := .help
  description := "Print help"

def modelsOption : OptionSpec where
  name := "models"
  letter := some 'm'
  kind := .path "MODELS"
  description := "JSON file with adapter settings and model declarations"
  source? := some "TSQL_MODELS"
  default? := some "models.json"

def verboseOption : OptionSpec where
  name := "verbose"
  letter := some 'v'
  kind := .flag
  description := "Enable verbose output"

def versionOption : OptionSpec where
  name := "version"
  letter := some 'V'
  kind := .version
  description := "Print version"

def rebuildOption : OptionSpec where
  name := "rebuild"
  kind := .flag
  description := "Print DROP statements before each table"

def snapshotOption : OptionSpec where
  name := "snapshot"
  letter := some 's'
  kind := .path "SNAPSHOT"
  description := "JSON snapshot of the live schema, keyed by table name"
  source? := some "TSQL_SNAPSHOT"

def modelOption : OptionSpec where
  name := "model"
  kind := .text "MODEL"
  description := "Model name"

def filterOption : OptionSpec where
  name := "where"
  letter := some 'f'
  kind := .text "FILTER"
  description :=
    "Filter as JSON, e.g. '\x7b\"name\":\x7b\"inq\":[\"John Lennon\"]\x7d\x7d'"

def orderOption : OptionSpec where
  name := "order"
  letter := some 'o'
  kind := .text "ORDER"
  description := "Comma-separated ORDER BY terms"

def skipOption : OptionSpec where
  name := "skip"
  kind := .count "SKIP"
  description := "Rows to skip"

def limitOption : OptionSpec where
  name := "limit"
  kind := .count "LIMIT"
  description := "Maximum rows to return"

def ddlCommand : CommandSpec where
  about := "Print the DDL creating every table and index"
  usage := "tsql-migrate ddl [OPTIONS]"
  options := [rebuildOption, helpOption]

def diffCommand : CommandSpec where
  about := "Print the DDL converging a recorded schema snapshot to the models"
  usage := "tsql-migrate diff --snapshot <SNAPSHOT>"
  options := [snapshotOption, helpOption]

def compileCommand : CommandSpec where
  about := "Print a compiled SELECT and its parameters"
  usage := "tsql-migrate compile [OPTIONS] --model <MODEL>"
  options := [modelOption, filterOption, orderOption, skipOption, limitOption, helpOption]

def ddlTask (_ : Environment) (given : Given) : Except Stop Task :=
  .ok (.ddl (given.lookup rebuildOption.name).isSome)

def diffTask (environment : Environment) (given : Given) : Except Stop Task :=
  return .diff (← given.required environment snapshotOption)

def compileTask (environment : Environment) (given : Given) : Except Stop Task := do
  let model ← given.required environment modelOption
  let filter ← given.value? environment filterOption
  let order ← given.value? environment orderOption
  let skip ← given.count? environment skipOption
  let limit ← given.count? environment limitOption
  return .compile model filter order skip limit

structure Subcommand where
  name : String
  spec : CommandSpec
  task : Environment → Given → Except Stop Task

def Subcommand.all : List Subcommand := [
  { name := "ddl", spec := ddlCommand, task := ddlTask },
  { name := "diff", spec := diffCommand, task := diffTask },
  { name := "compile", spec := compileCommand, task := compileTask }]

def Subcommand.ofName? (name : String) : Option Subcommand :=
  Subcommand.all.find? (·.name == name)

def mainCommand : CommandSpec where
  about := "Schema synchronization between declared models and a live SQL Server database"
  usage := "tsql-migrate [OPTIONS] <COMMAND>"
  options := [modelsOption, verboseOption, helpOption, versionOption]
  subcommands := Subcommand.all.map (fun command => (command.name, command.spec.about)) ++
    [("help", "Print this message or the help of the given subcommand(s)")]

inductive Request where
  | work (options : Options)
  | display (text : String)
  | complaint
deriving DecidableEq, Repr

namespace Request

def ofStop (environment : Environment) (command : CommandSpec) : Stop → Request
  | .usage => .complaint
  | .help => .display (command.help environment)
  | .version => .display (version ++ "\n")

def commandOptions (command : CommandSpec) (arguments : List String) : Except Stop Given := do
  let (given, rest) ← Given.take command.options [] none arguments
  if rest.isEmpty then .ok given else .error .usage

def helpOn (environment : Environment) : List String → Request
  | [] => .display (mainCommand.help environment)
  | [name] =>
    match Subcommand.ofName? name with
    | some command => .display (command.spec.help environment)
    | none => .complaint
  | _ => .complaint

def ofCommand (environment : Environment) (given : Given) (command : Subcommand)
    (arguments : List String) : Request :=
  let options : Except Stop Options := do
    let task ← command.task environment (← commandOptions command.spec arguments)
    let models ← given.required environment modelsOption
    return { models, verbose := (given.lookup verboseOption.name).isSome, task }
  match options with
  | .ok options => .work options
  | .error stop => ofStop environment command.spec stop

def ofArguments (environment : Environment) (arguments : List String) : Request :=
  match Given.take mainCommand.options [] none arguments with
  | .error stop => ofStop environment mainCommand stop
  | .ok (_, []) => .complaint
  | .ok (given, name :: rest) =>
    if name = "help" then helpOn environment rest
    else
      match Subcommand.ofName? name with
      | some command => ofCommand environment given command rest
      | none => .complaint

end Request

end SqlMapper.CommandLine
