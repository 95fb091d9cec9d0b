import SqlMapper.CompileError
import SqlMapper.Json.Fields
import SqlMapper.Parameters

/-!
Parameters in JSON: an array with one structure of a name and a value for each parameter.
-/

namespace SqlMapper

open Json (Written)
open Json.Written

def Parameter.read (document : Written) : Option Parameter := do
  let [name, value] ← document.fields? [["name"], ["value"]] | none
  return {
    name := ← required readText name
    value := Value.ofJson (← required Written.toJson? value) }

def Parameters.ofJson : Json → Except CompileError Parameters
  | .array items =>
    match (Json.itemsToWritten items).mapM Parameter.read with
    | some given => .ok (.seeded given)
    | none => .error (.invalidParameters .malformedParameter)
  | document => .error (.invalidParameters (.arrayExpected document))

end SqlMapper
