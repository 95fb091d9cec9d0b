import SqlMapper.Model.Basic
import SqlMapper.SortedTable

/-!
The models that are in use together.

Registering a model settles its key column and refuses a declaration that contradicts itself. A
model registered under a name in use replaces the one before; a refused one changes nothing.
-/

namespace SqlMapper

/-- What holds for all models: the schema that owns their tables, whether keys are named after
their model, and whether statements are meant for Azure. -/
structure Settings where
  schema : String := "dbo"
  keysNamedAfterModel : Bool := false
  azure : Bool := false
deriving DecidableEq, Repr, Inhabited

namespace Model

/-- The key column: that of the field marked as primary key, else a name by convention. -/
def keyColumn (model : Model) (settings : Settings) : Except CompileError String :=
  match model.keyFields with
  | [] => .ok (if settings.keysNamedAfterModel then model.name ++ "ID" else "id")
  | [field] => .ok (field.column.getD field.name)
  | _ => .error (.invalidModel model.name .severalPrimaryKeys)

def indexFault? (model : Model) (index : Index) : Option ModelFault :=
  if index.columns.isEmpty then some (.emptyIndex index.resolvedName)
  else
    (index.fields.find? fun field => (model.field? field).isNone).map
      (.unknownIndexField index.resolvedName)

/-- What is wrong with the indexes of the model. The key has an index already and gets no other. -/
def indexesFault? (model : Model) : Option ModelFault :=
  match model.fields.find? fun field => field.index.isSome && model.isKey field.name with
  | some field => some (.indexedPrimaryKey field.name)
  | none => model.indexes.findSome? model.indexFault?

def settled (model : Model) (settings : Settings) : Except CompileError Model := do
  let model := { model with key := ← model.keyColumn settings }
  match model.indexesFault? with
  | some fault => .error (.invalidModel model.name fault)
  | none => .ok model

end Model

structure Registry where
  settings : Settings
  table : SortedTable Model

namespace Registry

instance : Inhabited Registry := ⟨⟨{}, .empty⟩⟩

def empty (settings : Settings) : Registry := { settings, table := .empty }

def define (registry : Registry) (model : Model) : Except CompileError Registry := do
  let model ← model.settled registry.settings
  return { registry with table := registry.table.insert model.name model }

def ofModels (settings : Settings) (models : List Model) : Except CompileError Registry :=
  models.foldlM define (empty settings)

def model (registry : Registry) (name : String) : Except CompileError Model :=
  match registry.table.get? name with
  | some model => .ok model
  | none => .error (.unknownModel name)

def models (registry : Registry) : List Model := registry.table.values

end Registry

end SqlMapper
