import SqlMapper.CommandLine.Session

/-!
The program: it reads the files that a run asks for and writes what the run printed.
-/

namespace SqlMapper.Main

open CommandLine

def reason : IO.Error → Unreadable
  | .noFileOrDirectory .. => .missing
  | .permissionDenied .. => .denied
  | .inappropriateType _ 20 _ => .throughFile
  | .inappropriateType .. => .folder
  | .invalidArgument _ 36 _ => .nameTooLong
  | error => .other (toString error)

def perform {α : Type} : Dialogue files α → IO α
  | .done value => return value
  | .ask path next => do
    let answer ←
      try
        pure (Except.ok (← IO.FS.readFile (show String from path)))
      catch error => pure (Except.error (reason error))
    perform (next answer)

def environment : IO Environment := do
  let names := ["TSQL_MODELS", "TSQL_SNAPSHOT"]
  let values ← names.mapM fun name => return (← IO.getEnv name).map (name, ·)
  return values.filterMap id

end SqlMapper.Main

def main (arguments : List String) : IO UInt32 := do
  let environment ← SqlMapper.Main.environment
  let exit ← SqlMapper.Main.perform (SqlMapper.CommandLine.session environment arguments)
  IO.print exit.printed
  IO.eprint (exit.complaint.getD "Error: the arguments or a file cannot be read\n")
  return exit.code
