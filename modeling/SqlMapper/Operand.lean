import SqlMapper.Calendar.Reader
import SqlMapper.Model.Basic
import SqlMapper.Parameters
import SqlMapper.Sql

/-!
Operands: values as they stand in statement text.

`Operand.compile` turns a value for a field into an operand. Null and truth values stand in the
text themselves; every other value is bound to a parameter, in the form in which the column holds
it. The parameters bound before a failure stay bound.
-/

namespace SqlMapper

open Calendar (Instant)

abbrev Binding := ExceptT CompileError (StateM Parameters)

inductive Operand where
  | null
  | bit (value : Bool)
  | parameter (name : String)
deriving DecidableEq, Repr

def Operand.sql : Operand → Sql
  | .null => [.text "NULL"]
  | .bit true => [.text "1"]
  | .bit false => [.text "0"]
  | .parameter name => [.parameter name]

/-- Reads a value as a point in time: a text in one of the accepted forms, or a number of
milliseconds since the start of 1970. -/
def Value.instant? : Value → Option Instant
  | .timestamp value => some value
  | .text value =>
    let text := Text.trim value
    (Calendar.rfc3339? text).or <| (Calendar.spacedDateTime? text).or <|
      (Calendar.dateTime? text).or (Calendar.date? text)
  | .int value => Instant.ofMilliseconds? value.toInt
  | .float value => (Decimal.truncated? value).bind fun whole => Instant.ofMilliseconds? whole.toInt
  | _ => none

def Calendar.Instant.stored (instant : Instant) : String :=
  instant.render .milliseconds "Z"

namespace Operand

def bind (value : Value) : Binding Operand := do
  let (name, parameters) := (← get).add value
  set parameters
  return .parameter name

/-- The form in which a field holds a value that is not null: the text of a document, the text of a
point in time, or the value itself. -/
def stored (field : Field) (value : Value) : Except CompileError Value :=
  match field.type with
  | .json | .array _ => .ok (.text value.toJson.compact)
  | .date =>
    match value.instant? with
    | some instant => .ok (.text instant.stored)
    | none => .error (.invalidDate field.name value.toJson)
  | _ => .ok value

/-- The operand of a value for a field, or for something that is no field of the model. -/
def compile (field : Option Field) (value : Value) : Binding Operand :=
  if value.isNull then return .null
  else
    match field with
    | none => bind value
    | some field =>
      if field.type = .boolean then return .bit value.truthy
      else do bind (← liftExcept (stored field value))
where
  liftExcept {α : Type} (result : Except CompileError α) : Binding α :=
    match result with
    | .ok value => return value
    | .error error => throw error

end Operand

end SqlMapper
