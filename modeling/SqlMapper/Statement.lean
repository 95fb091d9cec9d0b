import SqlMapper.Condition
import SqlMapper.Order

/-!
Statements on the rows of a table.

A statement is a value that says what is done to which table; `Statement.sql` is its text. The
parameter `id` carries the key wherever a statement singles out one row.
-/

namespace SqlMapper

structure Table where
  schema : String
  name : String
deriving DecidableEq, Repr

def Table.sql (table : Table) : Sql :=
  [.name table.schema, .text ".", .name table.name]

structure Assignment where
  column : String
  operand : Operand
deriving DecidableEq, Repr

namespace Assignment

def valueSql (assignment : Assignment) : Sql :=
  [.text "("] ++ assignment.operand.sql ++ [.text ")"]

def sql (assignment : Assignment) : Sql :=
  [.name assignment.column, .text "="] ++ assignment.valueSql

end Assignment

structure Arrangement where
  terms : List OrderTerm
  skip : UInt64
  limit : Option UInt64
deriving DecidableEq, Repr

def Arrangement.sql (arrangement : Arrangement) : Sql :=
  [.text "ORDER BY "] ++ Sql.separated "," (arrangement.terms.map OrderTerm.sql) ++
    [.text (" OFFSET " ++ toString arrangement.skip ++ " ROWS")] ++
    match arrangement.limit with
    | some limit => [.text (" FETCH NEXT " ++ toString limit ++ " ROWS ONLY")]
    | none => []

inductive Statement where
  /-- Adds a row and reports the key that the database gave it. -/
  | insert (table : Table) (assignments : List Assignment)
  /-- Adds a row under the key given as parameter. -/
  | insertKeyed (table : Table) (key : String) (assignments : List Assignment)
  | permitKeys (table : Table) (permitted : Bool)
  /-- Reports the key given as parameter. -/
  | reportKey
  | update (table : Table) (key : String) (assignments : List Assignment)
  | select (table : Table) (conditions : List Condition) (arrangement : Option Arrangement)
  | count (table : Table) (conditions : List Condition)
  | countKeyed (table : Table) (key : String)
  | selectKeyed (table : Table) (key : String)
  | deleteKeyed (table : Table) (key : String)
  | deleteAll (table : Table)
  | verbatim (text : String)

namespace Statement

def keyParameter : String := "id"

def keyTest (key : String) : Sql :=
  [.text "WHERE ", .name key, .text " = (", .parameter keyParameter, .text ")"]

def valuesSql (columns : List String) (values : List Sql) : Sql :=
  [.text " ("] ++ Sql.separated "," (columns.map fun column => [.name column]) ++
    [.text ")\nVALUES ("] ++ Sql.separated "," values ++ [.text ")"]

def filterSql (conditions : List Condition) : Sql :=
  match Condition.clause? conditions with
  | some clause => .text "\n" :: clause
  | none => []

def reportSql : Sql :=
  [.text "SELECT ", .parameter keyParameter, .text " AS pkid"]

def sql : Statement → Sql
  | .insert table assignments =>
    [.text "INSERT INTO "] ++ table.sql ++
      (if assignments.isEmpty then [.text " DEFAULT VALUES"]
        else valuesSql (assignments.map (·.column)) (assignments.map Assignment.valueSql)) ++
      [.text ";\nSELECT CAST(SCOPE_IDENTITY() AS int) AS insertId;"]
  | .insertKeyed table key assignments =>
    let given := [.text "(", .parameter keyParameter, .text ")"]
    [.text "INSERT INTO "] ++ table.sql ++
      valuesSql (key :: assignments.map (·.column)) (given :: assignments.map Assignment.valueSql)
  | .permitKeys table permitted =>
    [.text "SET IDENTITY_INSERT "] ++ table.sql ++ [.text (if permitted then " ON" else " OFF")]
  | .reportKey => reportSql
  | .update table key assignments =>
    (if assignments.isEmpty then []
      else
        [.text "UPDATE "] ++ table.sql ++ [.text "\nSET "] ++
          Sql.separated "," (assignments.map Assignment.sql) ++
          [.text "\n"] ++ keyTest key ++ [.text ";\n"]) ++
      reportSql ++ [.text ";"]
  | .select table conditions arrangement =>
    [.text "SELECT * FROM "] ++ table.sql ++ filterSql conditions ++
      match arrangement with
      | some arrangement => .text "\n" :: arrangement.sql
      | none => []
  | .count table conditions =>
    [.text "SELECT COUNT(*) cnt FROM "] ++ table.sql ++ filterSql conditions
  | .countKeyed table key =>
    [.text "SELECT COUNT(*) cnt FROM "] ++ table.sql ++ [.text " "] ++ keyTest key
  | .selectKeyed table key =>
    [.text "SELECT * FROM "] ++ table.sql ++ [.text " "] ++ keyTest key
  | .deleteKeyed table key =>
    [.text "DELETE FROM "] ++ table.sql ++ [.text "\n"] ++ keyTest key
  | .deleteAll table => [.text "DELETE FROM "] ++ table.sql
  | .verbatim text => [.text text]

def text (statement : Statement) : String :=
  statement.sql.render .sqlServer

end Statement

end SqlMapper
