import SqlMapper.Decimal.Integer

/-!
The grammar of command-line arguments.

A `CommandSpec` lists the options that a command takes. An option has a long name and may have a
letter; its value is attached with an equals sign, attached to the letter, or the next argument.
The first argument that is no option ends the options, and so do two dashes.
-/

namespace SqlMapper.CommandLine

inductive OptionKind where
  | flag
  | text (placeholder : String)
  | path (placeholder : String)
  | count (placeholder : String)
  /-- Nothing; the help is shown and all else is ignored. -/
  | help
  | version
deriving DecidableEq, Repr

/-- An option of a command. A variable of the environment or a default may stand in for it. -/
structure OptionSpec where
  name : String
  letter : Option Char := none
  kind : OptionKind
  description : String
  source? : Option String := none
  default? : Option String := none
deriving DecidableEq, Repr

inductive Stop where
  | usage
  | help
  | version
deriving DecidableEq, Repr

/-- The options that were given, with their values. Flags have an empty value. -/
abbrev Given := List (String × String)

namespace OptionKind

def placeholder? : OptionKind → Option String
  | .text placeholder | .path placeholder | .count placeholder => some placeholder
  | .flag | .help | .version => none

def accepts (kind : OptionKind) (value : String) : Bool :=
  match kind with
  | .path _ => !value.isEmpty
  | .count _ => (Decimal.readUInt64? value.toList).isSome
  | .flag | .text _ | .help | .version => true

end OptionKind

def Given.note (given : Given) (option : OptionSpec) (value : String) : Except Stop Given :=
  if (given.lookup option.name).isNone && option.kind.accepts value then
    .ok (given ++ [(option.name, value)])
  else .error .usage

/-- Takes an option without a value behind it. The result is the option itself if its value has to
follow. -/
def Given.start (given : Given) (option : OptionSpec) : Except Stop (Given × Option OptionSpec) :=
  match option.kind with
  | .help => .error .help
  | .version => .error .version
  | .flag => return (← given.note option "", none)
  | .text _ | .path _ | .count _ => .ok (given, some option)

/-- Takes the letters behind a single dash. An option with a value takes the rest as its value. -/
def Given.takeLetters (options : List OptionSpec) (given : Given) :
    List Char → Except Stop (Given × Option OptionSpec)
  | [] => .ok (given, none)
  | letter :: rest =>
    match options.find? (·.letter == some letter) with
    | none => .error .usage
    | some option =>
      match option.kind.placeholder?, rest with
      | none, rest => do
        let (given, _) ← given.start option
        takeLetters options given rest
      | some _, [] => given.start option
      | some _, '=' :: value => return (← given.note option (String.ofList value), none)
      | some _, value => return (← given.note option (String.ofList value), none)

/-- Takes a long option: its name, and a value if there is an equals sign. -/
def Given.takeLong (options : List OptionSpec) (given : Given) (chars : List Char) :
    Except Stop (Given × Option OptionSpec) :=
  let name := String.ofList (chars.takeWhile (· != '='))
  match options.find? (·.name == name), chars.dropWhile (· != '=') with
  | none, _ => .error .usage
  | some option, [] => given.start option
  | some option, _ :: value =>
    if option.kind.placeholder?.isSome then
      return (← given.note option (String.ofList value), none)
    else .error .usage

/-- Takes arguments up to the first that is no option. An option that still waits for its value
gets the next argument, which may not look like an option. -/
def Given.take (options : List OptionSpec) (given : Given) :
    (waiting : Option OptionSpec) → List String → Except Stop (Given × List String)
  | none, [] => .ok (given, [])
  | some _, [] => .error .usage
  | waiting, argument :: rest =>
    match waiting, argument.toList with
    | some option, chars =>
      if chars.head? = some '-' ∧ chars ≠ ['-'] then .error .usage
      else do take options (← given.note option argument) none rest
    | none, ['-', '-'] => if rest.isEmpty then .ok (given, []) else .error .usage
    | none, '-' :: '-' :: chars => do
      let (given, waiting) ← given.takeLong options chars
      take options given waiting rest
    | none, '-' :: letter :: letters => do
      let (given, waiting) ← given.takeLetters options (letter :: letters)
      take options given waiting rest
    | none, _ => .ok (given, argument :: rest)

abbrev Environment := List (String × String)

/-- The value of an option: as given, else from the environment, else the default. -/
def Given.value? (given : Given) (environment : Environment) (option : OptionSpec) :
    Except Stop (Option String) :=
  match given.lookup option.name with
  | some value => .ok (some value)
  | none =>
    match option.source?.bind fun name => environment.lookup name with
    | some value => if option.kind.accepts value then .ok (some value) else .error .usage
    | none => .ok option.default?

def Given.required (given : Given) (environment : Environment) (option : OptionSpec) :
    Except Stop String := do
  match ← given.value? environment option with
  | some value => .ok value
  | none => .error .usage

def Given.count? (given : Given) (environment : Environment) (option : OptionSpec) :
    Except Stop (Option UInt64) := do
  return (← given.value? environment option).bind fun value => Decimal.readUInt64? value.toList

end SqlMapper.CommandLine
