import SqlMapper.Json.Fields
import SqlMapper.SortedTable

/-!
What a database reports about its tables.

A `Snapshot` records these facts for several tables, so that they can be read from a file.
-/

namespace SqlMapper.Schema

open Json (Written)
open Json.Written

structure StoredColumn where
  name : String
  nullable : Bool
  type : String
deriving DecidableEq, Repr

structure IndexEntry where
  index : String
  column : String
  position : UInt32
  unique : Bool := false
  primaryKey : Bool := false
  descending : Bool := false
deriving DecidableEq, Repr

/-- What is known about a table. A table without columns does not exist. -/
structure TableFacts where
  columns : List StoredColumn := []
  indexes : List IndexEntry := []
deriving DecidableEq, Repr, Inhabited

def StoredColumn.read (document : Written) : Option StoredColumn := do
  let [name, nullable, type] ← document.fields? [["name"], ["nullable"], ["dataType"]] | none
  return {
    name := ← required readText name
    nullable := ← required readBool nullable
    type := ← required readText type }

def IndexEntry.read (document : Written) : Option IndexEntry := do
  let [index, column, position, unique, primaryKey, descending] ←
    document.fields? [
      ["name"], ["column"], ["seqInIndex"], ["unique"], ["primaryKey"],
      ["descending", "isDescendingKey"]] | none
  return {
    index := ← required readText index
    column := ← required readText column
    position := ← required readUInt32 position
    unique := ← withDefault false readBool unique
    primaryKey := ← withDefault false readBool primaryKey
    descending := ← withDefault false readBool descending }

def StoredColumn.toJson (column : StoredColumn) : Json :=
  .object [
    ("name", .text column.name), ("nullable", .bool column.nullable),
    ("dataType", .text column.type)]

def IndexEntry.toJson (entry : IndexEntry) : Json :=
  .object [
    ("name", .text entry.index), ("column", .text entry.column),
    ("seqInIndex", Json.ofNat entry.position.toNat), ("unique", .bool entry.unique),
    ("primaryKey", .bool entry.primaryKey), ("descending", .bool entry.descending)]

def TableFacts.read (document : Written) : Option TableFacts := do
  let [columns, indexes] ← document.fields? [["columns"], ["indexes"]] | none
  return {
    columns := ← withDefault [] (readList StoredColumn.read) columns
    indexes := ← withDefault [] (readList IndexEntry.read) indexes }

abbrev Snapshot := SortedTable TableFacts

namespace Snapshot

def read : Written → Option Snapshot
  | .object members => do
    let entries ← members.mapM fun member => (TableFacts.read member.2).map (member.1, ·)
    return .ofList entries
  | _ => none

def ofText? (text : String) : Option Snapshot :=
  (Written.parse? text).bind read

/-- What is known about a table. Nothing is known about a table that was not recorded. -/
def facts (snapshot : Snapshot) (table : String) : TableFacts :=
  (snapshot.get? table).getD {}

end Snapshot

end SqlMapper.Schema
