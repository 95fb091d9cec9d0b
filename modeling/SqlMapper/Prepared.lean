import SqlMapper.Model.Registry
import SqlMapper.Record
import SqlMapper.Statement

/-!
Statements ready to be sent: the statement and the values of its parameters.

Every function looks up the model first, so that an unknown model is reported before anything else
that may be wrong. Values are bound from left to right as they occur in the text.
-/

namespace SqlMapper

structure Prepared where
  statement : Statement
  parameters : Parameters

structure Batch where
  statements : List Statement
  parameters : Parameters

namespace Batch

/-- The text of a batch: a line for each statement, closed by a semicolon. -/
def text (batch : Batch) : String :=
  String.intercalate "\n" (batch.statements.map fun statement => statement.text ++ ";")

def single (batch : Batch) : Prepared :=
  { statement := .verbatim batch.text, parameters := batch.parameters }

end Batch

structure Selection where
  filter : Filter := []
  order : List String := []
  skip : Option UInt64 := none
  limit : Option UInt64 := none

def Selection.skipped (selection : Selection) : UInt64 :=
  selection.skip.getD 0

/-- The number of rows that a selection is limited to. A limit of zero is none. -/
def Selection.limit? (selection : Selection) : Option UInt64 :=
  selection.limit.filter (0 < ·)

def Selection.isPaged (selection : Selection) : Bool :=
  0 < selection.skipped || selection.limit?.isSome

inductive SavePlan where
  /-- The record has no usable key: add a row and let the database choose the key. -/
  | insert (statement : Prepared)
  /-- Count the rows with the key; if there is one update it, and else insert it with its key. -/
  | keyed (key : Value) (probe update : Prepared) (insert : Batch)

def Binding.complete {α : Type} (binding : Binding α) (parameters : Parameters) :
    Except CompileError (α × Parameters) :=
  match ExceptT.run binding |>.run parameters with
  | (.ok value, parameters) => .ok (value, parameters)
  | (.error error, _) => .error error

namespace Model

/-- The value of the key in a record: under the name of the key column, or else under the name of a
key field. -/
def keyValue? (model : Model) (record : Record) : Option Value :=
  (record.get? model.key).or (model.keyFields.findSome? fun field => record.get? field.name)

/-- The fields of a record that can be set, with their values: those that are declared and are not
the key. -/
def settable (model : Model) (record : Record) : List (Field × Value) :=
  record.entries.filterMap fun (name, value) =>
    if model.isKey name then none else (model.field? name).map fun field => (field, value)

def assignments (model : Model) (record : Record) : Binding (List Assignment) :=
  (model.settable record).mapM fun (field, value) => do
    return { column := field.name, operand := ← Operand.compile (some field) value }

end Model

/-- Whether a value can be a key: it is a positive whole number. -/
def Value.isUsableKey (value : Value) : Bool :=
  value.asInt?.any (0 < ·)

def Registry.tableOf (registry : Registry) (model : Model) : Table :=
  { schema := registry.settings.schema, name := model.tableName }

def Parameters.ofKey (key : Value) : Parameters :=
  .seeded [{ name := Statement.keyParameter, value := key }]

namespace Prepared

def text (prepared : Prepared) : String := prepared.statement.text

def probeOf (registry : Registry) (model : Model) (key : Value) : Prepared :=
  { statement := .countKeyed (registry.tableOf model) model.key, parameters := .ofKey key }

def insert (registry : Registry) (model : String) (record : Record) :
    Except CompileError Prepared := do
  let model ← registry.model model
  let (assignments, parameters) ← (model.assignments record).complete .empty
  return { statement := .insert (registry.tableOf model) assignments, parameters }

def update (registry : Registry) (model : String) (key : Value) (record : Record) :
    Except CompileError Prepared := do
  let model ← registry.model model
  let (assignments, parameters) ← (model.assignments record).complete .empty
  return {
    statement := .update (registry.tableOf model) model.key assignments
    parameters := parameters.addNamed Statement.keyParameter key }

def save (registry : Registry) (name : String) (record : Record) :
    Except CompileError SavePlan := do
  let model ← registry.model name
  match (model.keyValue? record).filter Value.isUsableKey with
  | none => return .insert (← insert registry name record)
  | some key =>
    let (assignments, parameters) ← (model.assignments record).complete .empty
    let table := registry.tableOf model
    let parameters := parameters.addNamed Statement.keyParameter key
    return .keyed key (probeOf registry model key)
      { statement := .update table model.key assignments, parameters }
      { statements := [
          .permitKeys table true, .insertKeyed table model.key assignments,
          .permitKeys table false, .reportKey]
        parameters }

/-- The arrangement of a selection. Paging needs an order, and without one the key gives it. -/
def arrangement? (model : Model) (selection : Selection) :
    Except CompileError (Option Arrangement) := do
  let given ← selection.order.mapM OrderTerm.ofText
  let terms := if given.isEmpty && selection.isPaged then [{ column := model.key }] else given
  if terms.isEmpty then return none
  return some { terms, skip := selection.skipped, limit := selection.limit? }

def select (registry : Registry) (model : String) (selection : Selection) :
    Except CompileError Prepared := do
  let model ← registry.model model
  let (conditions, parameters) ← (Condition.compileAll model selection.filter).complete .empty
  let arrangement ← arrangement? model selection
  return { statement := .select (registry.tableOf model) conditions arrangement, parameters }

def count (registry : Registry) (model : String) (filter : Filter) :
    Except CompileError Prepared := do
  let model ← registry.model model
  let (conditions, parameters) ← (Condition.compileAll model filter).complete .empty
  return { statement := .count (registry.tableOf model) conditions, parameters }

def probe (registry : Registry) (model : String) (key : Value) :
    Except CompileError Prepared :=
  return probeOf registry (← registry.model model) key

def find (registry : Registry) (model : String) (key : Value) :
    Except CompileError Prepared := do
  let model ← registry.model model
  return { statement := .selectKeyed (registry.tableOf model) model.key, parameters := .ofKey key }

def delete (registry : Registry) (model : String) (key : Value) :
    Except CompileError Prepared := do
  let model ← registry.model model
  return { statement := .deleteKeyed (registry.tableOf model) model.key, parameters := .ofKey key }

def deleteAll (registry : Registry) (model : String) : Except CompileError Prepared := do
  let model ← registry.model model
  return { statement := .deleteAll (registry.tableOf model), parameters := .empty }

end Prepared

end SqlMapper
