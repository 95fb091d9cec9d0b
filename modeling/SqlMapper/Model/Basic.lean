import SqlMapper.Dialect
import SqlMapper.Model.Field

/-!
Models: the tables that records are stored in.

A model lists its fields and the indexes over them. Its key column is settled when the model is
registered and is `id` until then.
-/

namespace SqlMapper

structure Model where
  name : String
  table : Option String := none
  fields : List Field
  indexes : List Index := []
  key : String := "id"
deriving DecidableEq, Repr

namespace Model

def tableName (model : Model) : String :=
  storedName (model.table.getD model.name)

def field? (model : Model) (name : String) : Option Field :=
  model.fields.find? (·.name == name)

/-- Whether a name means the primary key: it is the key column or the name of a key field. -/
def isKey (model : Model) (name : String) : Bool :=
  name == model.key || model.fields.any fun field => field.primaryKey && field.name == name

def columns (model : Model) : List Field :=
  model.fields.filter fun field => !model.isKey field.name

def fieldIndexes (model : Model) : List Index :=
  model.columns.filterMap Field.fullIndex?

/-- All declared indexes: those of fields first. -/
def allIndexes (model : Model) : List Index :=
  model.fieldIndexes ++ model.indexes

def keyFields (model : Model) : List Field :=
  model.fields.filter (·.primaryKey)

end Model

end SqlMapper
