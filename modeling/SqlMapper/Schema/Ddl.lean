import SqlMapper.Model.Registry
import SqlMapper.Schema.Diff
import SqlMapper.Statement

/-!
Statements that define tables and indexes.

Creating skips what exists already and dropping skips what does not exist, so both can be repeated.
The test names the object in a literal, which holds the quoted name of the table.
-/

namespace SqlMapper.Schema

def keyOptions : String :=
  " WITH (PAD_INDEX = OFF, STATISTICS_NORECOMPUTE = OFF, IGNORE_DUP_KEY = OFF, " ++
    "ALLOW_ROW_LOCKS = ON, ALLOW_PAGE_LOCKS = ON) ON [PRIMARY]"

def indexOptions : String :=
  " WITH (PAD_INDEX = OFF, STATISTICS_NORECOMPUTE = OFF, SORT_IN_TEMPDB = OFF, " ++
    "IGNORE_DUP_KEY = OFF, DROP_EXISTING = OFF, ONLINE = OFF, ALLOW_ROW_LOCKS = ON, " ++
    "ALLOW_PAGE_LOCKS = ON) ON [PRIMARY]"

/-- Text that Azure does not take. -/
def offAzure (settings : Settings) (text : String) : Sql :=
  if settings.azure then [] else [.text text]

namespace Ddl

def table (settings : Settings) (model : Model) : Table :=
  { schema := settings.schema, name := model.tableName }

def tableLiteral (table : Table) : Piece :=
  .literal (table.sql.render .sqlServer)

def tableExists (table : Table) : Sql :=
  [.text "EXISTS (SELECT * FROM sys.objects WHERE object_id = OBJECT_ID(", tableLiteral table,
    .text ") AND type in (", .literal "U", .text "))"]

def column (field : Field) : Sql :=
  [.name field.name, .text (" " ++ columnSettings field)]

def keyConstraint (settings : Settings) (model : Model) : Sql :=
  [.text "PRIMARY KEY CLUSTERED\n(\n    ", .name model.key, .text " ASC\n)"] ++
    offAzure settings keyOptions

def definitions (settings : Settings) (model : Model) : List Sql :=
  [.name model.key, .text " [int] IDENTITY(1,1) NOT NULL"] ::
    model.columns.map column ++ [keyConstraint settings model]

def createIndex (settings : Settings) (model : Model) (index : Index) : Sql :=
  let table := table settings model
  let columns := index.columns.map fun column =>
    [.text "    ", .name column.field, .text (" " ++ column.direction.keyword)]
  [.text "IF NOT EXISTS (SELECT * FROM sys.indexes WHERE name = ", .literal index.resolvedName,
    .text " AND object_id = OBJECT_ID(", tableLiteral table, .text "))\nCREATE ",
    .text (if index.unique then "UNIQUE " else ""), .text (index.kind.keyword ++ " INDEX "),
    .name index.resolvedName, .text " ON "] ++ table.sql ++
    [.text "\n(\n"] ++ Sql.separated ",\n" columns ++ [.text "\n)"] ++
    offAzure settings indexOptions

/-- Creates a table unless it exists, and then its indexes. -/
def createTable (settings : Settings) (model : Model) : Sql :=
  let table := table settings model
  [.text "SET ANSI_NULLS ON;\nSET QUOTED_IDENTIFIER ON;\nSET ANSI_PADDING ON;\nIF NOT "] ++
    tableExists table ++ [.text "\nBEGIN\nCREATE TABLE "] ++ table.sql ++
    [.text " (\n    "] ++ Sql.separated ",\n    " (definitions settings model) ++ [.text "\n)"] ++
    offAzure settings " ON [PRIMARY]" ++ [.text "\nEND;"] ++
    model.allIndexes.flatMap fun index =>
      [.text "\n"] ++ createIndex settings model index ++ [.text ";"]

def dropTable (settings : Settings) (model : Model) : Sql :=
  let table := table settings model
  [.text "IF "] ++ tableExists table ++ [.text "\nBEGIN\n    DROP TABLE "] ++ table.sql ++
    [.text "\nEND;"]

def change (settings : Settings) (model : Model) : Change → Sql
  | .addColumn field =>
    [.text "ALTER TABLE "] ++ (table settings model).sql ++ [.text " ADD "] ++ column field
  | .alterColumn field =>
    [.text "ALTER TABLE "] ++ (table settings model).sql ++ [.text " ALTER COLUMN "] ++ column field
  | .dropColumn name =>
    [.text "ALTER TABLE "] ++ (table settings model).sql ++ [.text " DROP COLUMN ", .name name]
  | .dropIndex name =>
    [.text "DROP INDEX ", .name name, .text " ON "] ++ (table settings model).sql
  | .createIndex index => createIndex settings model index

/-- Carries out several changes in one go. Without changes there is nothing to do. -/
def changes? (settings : Settings) (model : Model) (changes : List Change) : Option Sql :=
  if changes.isEmpty then none
  else some (Sql.separated ";\n" (changes.map (change settings model)) ++ [.text ";"])

end Ddl

end SqlMapper.Schema
