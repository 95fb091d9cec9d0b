import SqlMapper.Model.Basic
import SqlMapper.Schema.ColumnType
import SqlMapper.Schema.Facts

/-!
How a table differs from its model.

`diff` lists the changes that make a table what its model declares, in an order in which they can
be carried out: indexes are dropped before the columns that they cover change, and created last.
The key column and its index are never changed; what is wrong with them is a mismatch.
-/

namespace SqlMapper.Schema

open Text (sameName)

inductive Change where
  | addColumn (field : Field)
  | alterColumn (field : Field)
  | dropColumn (column : String)
  | dropIndex (index : String)
  | createIndex (index : Index)
deriving DecidableEq, Repr

def Change.describe : Change → String
  | .addColumn field => "add column [" ++ field.name ++ "]"
  | .alterColumn field => "alter column [" ++ field.name ++ "]"
  | .dropColumn column => "drop column [" ++ column ++ "]"
  | .dropIndex index => "drop index [" ++ index ++ "]"
  | .createIndex index => "create index [" ++ index.resolvedName ++ "]"

inductive Mismatch where
  | keyMissing (key : String)
  | keyType (key type : String)
deriving DecidableEq, Repr

def Mismatch.message : Mismatch → String
  | .keyMissing key => "primary key column [" ++ key ++ "] is missing"
  | .keyType key type => "primary key column [" ++ key ++ "] has type " ++ type ++ " instead of int"

structure StoredIndex where
  name : String
  columns : List IndexColumn
  unique : Bool
  primaryKey : Bool
deriving DecidableEq, Repr

def IndexEntry.indexColumn (entry : IndexEntry) : IndexColumn :=
  { field := entry.column, direction := if entry.descending then .descending else .ascending }

def indexNames (entries : List IndexEntry) : List String :=
  (entries.map (·.index)).eraseDups

/-- The entries of an index, by position. Entries at the same position stay in order. -/
def entriesOf (index : String) (entries : List IndexEntry) : List IndexEntry :=
  (entries.filter (·.index == index)).mergeSort fun left right => left.position ≤ right.position

/-- The indexes that the entries make up. What holds for a whole index is taken from its first
entry. -/
def groupIndexes (entries : List IndexEntry) : List StoredIndex :=
  (indexNames entries).filterMap fun name =>
    (entries.find? (·.index == name)).map fun first =>
      { name
        columns := (entriesOf name entries).map IndexEntry.indexColumn
        unique := first.unique
        primaryKey := first.primaryKey }

def column? (name : String) (columns : List StoredColumn) : Option StoredColumn :=
  columns.find? fun column => sameName column.name name

def keyMismatch? (model : Model) (columns : List StoredColumn) : Option Mismatch :=
  match column? model.key columns with
  | none => some (.keyMissing model.key)
  | some column =>
    if ColumnType.int.spelledBy column.type then none else some (.keyType model.key column.type)

def StoredColumn.fits (column : StoredColumn) (field : Field) : Bool :=
  column.nullable == field.nullable && (ColumnType.ofField field).spelledBy column.type

def fieldChange? (columns : List StoredColumn) (field : Field) : Option Change :=
  match column? field.name columns with
  | none => some (.addColumn field)
  | some column => if column.fits field then none else some (.alterColumn field)

def isDeclared (model : Model) (column : StoredColumn) : Bool :=
  model.columns.any (fun field => sameName field.name column.name) ||
    model.isKey column.name || sameName column.name model.key

def alteredNames (changes : List Change) : List String :=
  changes.filterMap fun
    | .alterColumn field => some (Text.lower field.name)
    | _ => none

/-- The changes of columns: declared columns are added and altered in order, then undeclared ones
are dropped. -/
def columnChanges (model : Model) (columns : List StoredColumn) : List Change :=
  model.columns.filterMap (fieldChange? columns) ++
    (columns.filter fun column => !isDeclared model column).map fun column =>
      .dropColumn column.name

def sameColumns : List IndexColumn → List IndexColumn → Bool
  | [], [] => true
  | left :: lefts, right :: rights =>
    sameName left.field right.field && left.direction == right.direction && sameColumns lefts rights
  | _, _ => false

def declaredIndex? (model : Model) (stored : StoredIndex) : Option Index :=
  model.allIndexes.find? fun index => sameName index.resolvedName stored.name

/-- The name of the declared index that an index of the database can stand for as it is. An index
over an altered column cannot stay. -/
def keptName? (model : Model) (altered : List String) (stored : StoredIndex) : Option String :=
  (declaredIndex? model stored).bind fun index =>
    if sameColumns index.columns stored.columns && index.unique == stored.unique &&
        !stored.columns.any (fun column => altered.contains (Text.lower column.field)) then
      some index.resolvedName
    else none

structure TableDiff where
  changes : List Change
  mismatches : List Mismatch
deriving DecidableEq, Repr

def diff (model : Model) (facts : TableFacts) : TableDiff :=
  let columnChanges := columnChanges model facts.columns
  let altered := alteredNames columnChanges
  let stored := (groupIndexes facts.indexes).filter (!·.primaryKey)
  let kept := stored.filterMap (keptName? model altered)
  let dropped := stored.filter fun index => (keptName? model altered index).isNone
  let created := model.allIndexes.filter fun index => !kept.contains index.resolvedName
  { changes :=
      dropped.map (fun index => .dropIndex index.name) ++ columnChanges ++ created.map .createIndex
    mismatches := (keyMismatch? model facts.columns).toList }

end SqlMapper.Schema
