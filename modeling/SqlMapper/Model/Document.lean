import SqlMapper.Json.Fields
import SqlMapper.Model.Registry

/-!
Model declarations in JSON.

Each type has a reader, which takes every accepted spelling, and a writer with one spelling. What a
reader leaves out takes the default of the field.
-/

namespace SqlMapper

open Json (Written)
open Json.Written

def Json.ofText? (text : Option String) : Json :=
  (text.map Json.text).getD .null

def FieldType.words : List (String × FieldType) := [
  ("String", .string), ("Text", .text), ("Number", .number), ("Date", .date),
  ("Boolean", .boolean), ("Point", .point), ("JSON", .json)]

def FieldType.read : Written → Option FieldType
  | .object [("Array", item)] => (FieldType.read item).map .array
  | document => readWord FieldType.words document

def FieldType.toJson : FieldType → Json
  | .array item => .object [("Array", item.toJson)]
  | type => .text type.render

def Direction.read : Written → Option Direction :=
  readWord [("ASC", .ascending), ("DESC", .descending)]

def IndexKind.read : Written → Option IndexKind :=
  readWord [("CLUSTERED", .clustered), ("NONCLUSTERED", .nonclustered)]

namespace FieldIndex

def read (document : Written) : Option FieldIndex := do
  let [unique, name, kind, direction] ←
    document.fields? [["unique"], ["name"], ["kind"], ["type"]] | none
  return {
    unique := ← withDefault false readBool unique
    name := ← withDefault none (readOptional readText) name
    kind := ← withDefault .nonclustered IndexKind.read kind
    direction := ← withDefault .ascending Direction.read direction }

/-- Reads whether a field has an index: null and false mean none, true means the default one, and
anything else gives its settings. Nothing inside may lack a value. -/
def readDeclaration : Written → Option (Option FieldIndex)
  | .null | .bool false => some none
  | .bool true => some (some {})
  | document => if document.isReadable then (read document).map some else none

def toJson (index : FieldIndex) : Json :=
  .object [
    ("unique", .bool index.unique), ("name", Json.ofText? index.name),
    ("kind", .text index.kind.keyword), ("type", .text index.direction.keyword)]

end FieldIndex

def IndexColumn.read (document : Written) : Option IndexColumn := do
  let text ← readText document
  (IndexColumn.ofText text).toOption

namespace Index

def read (document : Written) : Option Index := do
  let [columns, unique, name, kind] ←
    document.fields? [["columns"], ["unique"], ["name"], ["kind"]] | none
  return {
    columns := ← required (readList IndexColumn.read) columns
    unique := ← withDefault false readBool unique
    name := ← withDefault none (readOptional readText) name
    kind := ← withDefault .nonclustered IndexKind.read kind }

def toJson (index : Index) : Json :=
  .object [
    ("columns", .array (index.columns.map fun column => .text column.toText)),
    ("unique", .bool index.unique), ("name", Json.ofText? index.name),
    ("kind", .text index.kind.keyword)]

end Index

namespace Field

def spellings : List (List String) := [
  ["name"], ["type"], ["nullable", "allowNull", "null"], ["limit"], ["index"], ["primaryKey"],
  ["column"]]

def read (document : Written) : Option Field := do
  let [name, type, nullable, limit, index, primaryKey, column] ← document.fields? spellings | none
  return {
    name := ← required readText name
    type := ← required FieldType.read type
    nullable := ← withDefault true readBool nullable
    limit := ← withDefault none (readOptional readUInt32) limit
    index := ← withDefault none FieldIndex.readDeclaration index
    primaryKey := ← withDefault false readBool primaryKey
    column := ← withDefault none (readOptional readText) column }

def toJson (field : Field) : Json :=
  .object [
    ("name", .text field.name), ("type", field.type.toJson), ("nullable", .bool field.nullable),
    ("limit", (field.limit.map fun limit => Json.ofNat limit.toNat).getD .null),
    ("index", (field.index.map FieldIndex.toJson).getD .null),
    ("primaryKey", .bool field.primaryKey), ("column", Json.ofText? field.column)]

end Field

namespace Model

/-- Reads a model. Its key column is not written and stays at the default. -/
def read (document : Written) : Option Model := do
  let [name, table, fields, indexes] ←
    document.fields? [["name"], ["table"], ["fields"], ["indexes"]] | none
  return {
    name := ← required readText name
    table := ← withDefault none (readOptional readText) table
    fields := ← required (readList Field.read) fields
    indexes := ← withDefault [] (readList Index.read) indexes }

def toJson (model : Model) : Json :=
  .object [
    ("name", .text model.name), ("table", Json.ofText? model.table),
    ("fields", .array (model.fields.map Field.toJson)),
    ("indexes", .array (model.indexes.map Index.toJson))]

end Model

namespace Settings

def read (document : Written) : Option Settings := do
  let [schema, keysNamedAfterModel, azure] ←
    document.fields? [["schema"], ["tableNameId", "tableNameID"], ["azure"]] | none
  return {
    schema := ← withDefault "dbo" readText schema
    keysNamedAfterModel := ← withDefault false readBool keysNamedAfterModel
    azure := ← withDefault false readBool azure }

def toJson (settings : Settings) : Json :=
  .object [
    ("schema", .text settings.schema), ("tableNameId", .bool settings.keysNamedAfterModel),
    ("azure", .bool settings.azure)]

end Settings

structure Declarations where
  settings : Settings := {}
  models : List Model := []
deriving DecidableEq, Repr

namespace Declarations

def read (document : Written) : Option Declarations := do
  let [settings, models] ← document.fields? [["settings"], ["models"]] | none
  return {
    settings := ← withDefault {} Settings.read settings
    models := ← withDefault [] (readList Model.read) models }

def ofText? (text : String) : Option Declarations :=
  (Written.parse? text).bind read

def toJson (declarations : Declarations) : Json :=
  .object [
    ("settings", declarations.settings.toJson),
    ("models", .array (declarations.models.map Model.toJson))]

def registry (declarations : Declarations) : Except CompileError Registry :=
  Registry.ofModels declarations.settings declarations.models

end Declarations

end SqlMapper
