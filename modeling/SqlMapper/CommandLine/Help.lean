import SqlMapper.CommandLine.Arguments

/-!
The help of commands.
-/

namespace SqlMapper.CommandLine

structure CommandSpec where
  about : String
  usage : String
  options : List OptionSpec
  subcommands : List (String × String) := []
deriving DecidableEq, Repr

def twoColumns (rows : List (String × String)) : String :=
  let width := (rows.map fun row => row.1.length).foldl max 0
  String.join (rows.map fun (left, right) =>
    let filling := String.ofList (List.replicate (width - left.length) ' ')
    "  " ++ left ++ filling ++ "  " ++ right ++ "\n")

namespace OptionSpec

def pattern (option : OptionSpec) : String :=
  (match option.letter with
    | some letter => "-" ++ String.singleton letter ++ ", "
    | none => "    ") ++
    "--" ++ option.name ++
    match option.kind.placeholder? with
    | some placeholder => " <" ++ placeholder ++ ">"
    | none => ""

def explanation (environment : Environment) (option : OptionSpec) : String :=
  option.description ++
    (match option.source? with
      | some name => " [env: " ++ name ++ "=" ++ (environment.lookup name).getD "" ++ "]"
      | none => "") ++
    match option.default? with
    | some default => " [default: " ++ default ++ "]"
    | none => ""

end OptionSpec

def CommandSpec.help (environment : Environment) (command : CommandSpec) : String :=
  command.about ++ "\n\nUsage: " ++ command.usage ++ "\n\n" ++
    (if command.subcommands.isEmpty then ""
      else "Commands:\n" ++ twoColumns command.subcommands ++ "\n") ++
    "Options:\n" ++
    twoColumns (command.options.map fun option =>
      (option.pattern, option.explanation environment))

end SqlMapper.CommandLine
