import SqlMapper.Dialect
import SqlMapper.Schema.Error
import SqlMapper.Schema.Facts
import SqlMapper.Text.Ascii
import SqlMapper.Text.Case

/-!
Reading what is known about a table from the catalog of a database.

There is one call for the columns of a table and one for its indexes. The rows that come back are
read one by one, and the first row that is unusable ends the reading.
-/

namespace SqlMapper.Schema

namespace Catalog

def columnsText : String :=
  "SELECT COLUMN_NAME, IS_NULLABLE, DATA_TYPE, CHARACTER_MAXIMUM_LENGTH " ++
    "FROM INFORMATION_SCHEMA.COLUMNS WHERE TABLE_SCHEMA = @schema AND TABLE_NAME = @table " ++
    "ORDER BY ORDINAL_POSITION"

def indexesText : String :=
  "SELECT i.name AS index_name, c.name AS column_name, ic.key_ordinal AS seq_in_index, " ++
    "i.is_unique, i.is_primary_key, ic.is_descending_key FROM sys.indexes i " ++
    "JOIN sys.index_columns ic ON ic.object_id = i.object_id AND ic.index_id = i.index_id " ++
    "JOIN sys.columns c ON c.object_id = ic.object_id AND c.column_id = ic.column_id " ++
    "WHERE i.object_id = OBJECT_ID(@table) AND ic.key_ordinal > 0 " ++
    "ORDER BY i.name, ic.key_ordinal"

def columnsCall (schema table : String) : Call where
  text := columnsText
  parameters := [
    { name := "schema", value := .text schema }, { name := "table", value := .text table }]

def indexesCall (schema table : String) : Call where
  text := indexesText
  parameters := [{ name := "table", value := .text (Dialect.sqlServer.qualified schema table) }]

def sizedTypes : List String := ["char", "varchar", "nchar", "nvarchar", "binary", "varbinary"]

/-- The type with its length, if it is a type that has one. A length of -1 is the greatest one. -/
def sizedType (base : String) (length : Option Int64) : String :=
  match length with
  | some length =>
    if sizedTypes.contains (Text.lower base) then
      base ++ "(" ++ (if length = -1 then "max" else toString length.toInt) ++ ")"
    else base
  | none => base

def requiredText (row : Row) (column : String) : Except CatalogFault String :=
  match Row.text? row column with
  | some text => .ok text
  | none => .error (.missing column)

def column (row : Row) : Except CatalogFault StoredColumn := do
  let name ← requiredText row "COLUMN_NAME"
  let nullable ← requiredText row "IS_NULLABLE"
  let base ← requiredText row "DATA_TYPE"
  return {
    name
    nullable := Text.sameName nullable "YES"
    type := sizedType base (Row.int? row "CHARACTER_MAXIMUM_LENGTH") }

def position (row : Row) : Except CatalogFault UInt32 :=
  match Row.int? row "seq_in_index" with
  | some value =>
    if 0 ≤ value.toInt ∧ value.toInt < 0x100000000 then .ok (UInt32.ofNat value.toInt.toNat)
    else .error .position
  | none => .error .position

def indexEntry (row : Row) : Except CatalogFault IndexEntry := do
  let position ← position row
  let index ← requiredText row "index_name"
  let column ← requiredText row "column_name"
  return {
    index
    column
    position
    unique := (Row.bool? row "is_unique").getD false
    primaryKey := (Row.bool? row "is_primary_key").getD false
    descending := (Row.bool? row "is_descending_key").getD false }

def readRows {α : Type} (table : String) (call : Call) (read : Row → Except CatalogFault α)
    (answer : Answer) : Except SchemaError (List α) :=
  match answer with
  | .error rejection => .error (.execution table call.text rejection)
  | .ok rows =>
    match rows.mapM read with
    | .ok facts => .ok facts
    | .error fault => .error (.introspection table fault)

def query {α : Type} (table : String) (call : Call) (read : Row → Except CatalogFault α) :
    Dialogue database (Except SchemaError (List α)) := do
  return readRows table call read (← database.ask call)

def columns (schema table : String) : Dialogue database (Except SchemaError (List StoredColumn)) :=
  query table (columnsCall schema table) column

def indexes (schema table : String) : Dialogue database (Except SchemaError (List IndexEntry)) :=
  query table (indexesCall schema table) indexEntry

end Catalog

end SqlMapper.Schema
