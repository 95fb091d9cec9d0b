import SqlMapper.Database
import SqlMapper.Prepared

/-!
Storing records of registered models in a database.

Each operation is a dialogue that sends prepared statements one after the other. The first
statement that is refused ends the operation.
-/

namespace SqlMapper

inductive Command where
  | statement (prepared : Prepared)
  | batch (statements : Batch)

namespace Command

def text : Command → String
  | .statement prepared => prepared.text
  | .batch statements => statements.text

def parameters : Command → Parameters
  | .statement prepared => prepared.parameters
  | .batch statements => statements.parameters

def call (command : Command) : Call :=
  { text := command.text, parameters := command.parameters.bound }

end Command

def commands : Interface where
  Request := Command
  Answer := fun _ => Answer

inductive StoreError where
  | compile (error : CompileError)
  | execution (command : Command) (rejection : Rejection)
  | notFound (table key : String) (value : Value)
  /-- A row was added, but the database did not report its key. -/
  | missingIdentity (table : String)

def StoreError.message : StoreError → String
  | .compile error => "Compile error: " ++ error.message
  | .execution command rejection =>
    "Execution failed: " ++ rejection.message ++ "\n" ++ command.text
  | .notFound table key value =>
    "A " ++ table ++ " doesn't exist with a " ++ key ++ " of " ++ value.toJson.compact
  | .missingIdentity table => "Insert into '" ++ table ++ "' returned no identity"

/-- The name under which every record of a store has its key, beside the key column. -/
def keyAlias : String := "id"

/-- A value as a record shows it: in a truth column anything but null is a truth value. -/
def Model.decoded (model : Model) (column : String) (value : Value) : Value :=
  match model.field? column with
  | some field => if field.type = .boolean ∧ ¬ value.isNull then .bool value.truthy else value
  | none => value

/-- The record of a row, sorted by column. Its key is there a second time under `id`. -/
def Record.ofRow (model : Model) (row : Row) : Record :=
  (Record.ofList (row.entries.map fun (column, value) =>
    (column, model.decoded column value))).set keyAlias ((row.get? model.key).getD .null)

abbrev StoreOperation (α : Type) := ExceptT StoreError (Dialogue commands) α

namespace Store

def compiled {α : Type} (result : Except CompileError α) : StoreOperation α :=
  match result with
  | .ok value => pure value
  | .error error => throw (.compile error)

def send (command : Command) : StoreOperation (List Row) := do
  match ← ExceptT.lift (commands.ask command) with
  | .ok rows => pure rows
  | .error rejection => throw (.execution command rejection)

def reportedKey (model : Model) (column : String) (rows : List Row) : StoreOperation Int64 :=
  match firstInt? column rows with
  | some key => pure key
  | none => throw (.missingIdentity model.tableName)

def create (registry : Registry) (model : String) (record : Record) : StoreOperation Int64 := do
  let statement ← compiled (Prepared.insert registry model record)
  let model ← compiled (registry.model model)
  reportedKey model "insertId" (← send (.statement statement))

/-- Saves a record: its row is updated if it exists and added if not. The returned record has the
key that the database reported. -/
def save (registry : Registry) (name : String) (record : Record) : StoreOperation Record := do
  let model ← compiled (registry.model name)
  let key ←
    match ← compiled (Prepared.save registry name record) with
    | .insert statement => do reportedKey model "insertId" (← send (.statement statement))
    | .keyed _ probe update insert => do
      let found := 1 ≤ countOf (← send (.statement probe))
      let write := if found then Command.statement update else .batch insert
      reportedKey model "pkid" (← send write)
  return (record.set model.key (.int key)).set keyAlias (.int key)

def hasKey (registry : Registry) (model : String) (key : Value) : StoreOperation Bool := do
  let statement ← compiled (Prepared.probe registry model key)
  return 1 ≤ countOf (← send (.statement statement))

/-- Changes a row that has to exist. The key is the given one, or else that of the record. -/
def updateAttributes (registry : Registry) (name : String) (key : Option Value) (record : Record) :
    StoreOperation Record := do
  let model ← compiled (registry.model name)
  let (key, record) := match key with
    | some key => (key, record.set model.key key)
    | none => ((model.keyValue? record).getD .null, record)
  if ← hasKey registry name key then save registry name record
  else throw (.notFound model.tableName model.key key)

def find (registry : Registry) (name : String) (key : Value) :
    StoreOperation (Option Record) := do
  let model ← compiled (registry.model name)
  let statement ← compiled (Prepared.find registry name key)
  let rows ← send (.statement statement)
  return rows.head?.map (Record.ofRow model)

def all (registry : Registry) (name : String) (selection : Selection) :
    StoreOperation (List Record) := do
  let model ← compiled (registry.model name)
  let statement ← compiled (Prepared.select registry name selection)
  let rows ← send (.statement statement)
  return rows.map (Record.ofRow model)

def count (registry : Registry) (model : String) (filter : Filter) : StoreOperation Int64 := do
  let statement ← compiled (Prepared.count registry model filter)
  return countOf (← send (.statement statement))

def delete (registry : Registry) (model : String) (key : Value) : StoreOperation Unit := do
  let statement ← compiled (Prepared.delete registry model key)
  let _ ← send (.statement statement)

def deleteAll (registry : Registry) (model : String) : StoreOperation Unit := do
  let statement ← compiled (Prepared.deleteAll registry model)
  let _ ← send (.statement statement)

end Store

end SqlMapper
