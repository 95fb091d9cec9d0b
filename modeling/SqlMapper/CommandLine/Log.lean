import SqlMapper.Schema.Sync

/-!
Log lines.

A line shows how urgent it is, a message, and named fields. A message cannot steer the terminal: the
control characters that would are written out. Lines about details are written only if they are
asked for.
-/

namespace SqlMapper.CommandLine

open Schema

inductive Urgency where
  | detail
  | information
  | warning
deriving DecidableEq, Repr

def Urgency.label : Urgency → String
  | .detail => "DEBUG"
  | .information => " INFO"
  | .warning => " WARN"

structure LogLine where
  urgency : Urgency
  message : String
  fields : List (String × String)
deriving DecidableEq, Repr

namespace LogLine

def hexadecimal (code : Nat) : String :=
  String.ofList [Nat.digitChar (code / 16), Nat.digitChar (code % 16)]

/-- The ASCII controls that steer a terminal: bell, backspace, form feed, escape and delete. -/
def steeringCodes : List Nat := [0x07, 0x08, 0x0c, 0x1b, 0x7f]

/-- A character of a message, written out if it steers a terminal. All controls beyond ASCII do. -/
def shownChar (char : Char) : String :=
  if char.toNat ∈ steeringCodes then "\\x" ++ hexadecimal char.toNat
  else if 0x80 ≤ char.toNat ∧ char.toNat ≤ 0x9f then
    "\\u\x7b" ++ hexadecimal char.toNat ++ "\x7d"
  else char.toString

def shown (message : String) : String :=
  String.join (message.toList.map shownChar)

def render (line : LogLine) : String :=
  line.urgency.label ++ " " ++ shown line.message ++
    String.join (line.fields.map fun (name, value) => " " ++ name ++ "=" ++ value) ++ "\n"

def renderAll (verbose : Bool) (lines : List LogLine) : String :=
  String.join ((lines.filter fun line => verbose || line.urgency != .detail).map render)

def loaded (path : String) (models : Nat) : LogLine where
  urgency := .information
  message := "Loaded models"
  fields := [("path", path), ("models", toString models)]

def started (mode : SyncMode) : LogLine where
  urgency := .information
  message := "Synchronizing schema"
  fields := [("mode", mode.name), ("dialect", "\"" ++ Dialect.sqlServer.name ++ "\"")]

def upToDate : LogLine where
  urgency := .information
  message := "Schema is up to date."
  fields := []

def ofReport (report : ModelReport) : List LogLine :=
  let fields := [("model", report.model), ("table", report.table)]
  let finding : LogLine := match report.action with
    | .rebuild => { urgency := .information, message := "Rebuilding table", fields }
    | .create => { urgency := .information, message := "Table is missing", fields }
    | .alter =>
      { urgency := .information
        message := "Table needs alteration"
        fields := fields ++ [("changes", toString report.changes.length)] }
    | .upToDate => { urgency := .detail, message := "Table is up to date", fields }
  (report.mismatches.map fun mismatch =>
    { urgency := .warning, message := mismatch.message, fields }) ++ [finding]

def reminders (report : ModelReport) : List LogLine :=
  report.mismatches.map fun mismatch =>
    { urgency := .warning, message := mismatch.message, fields := [("model", report.model)] }

end LogLine

end SqlMapper.CommandLine
