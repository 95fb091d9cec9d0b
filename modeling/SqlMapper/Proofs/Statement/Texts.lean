import SqlMapper.Statement

namespace SqlMapper

/-! The texts that write a row.

An assignment stands in the text as a quoted column and a value in parentheses.  The
columns and the values of a new row are two lists, those of a changed row are pairs.
-/

def Operand.text : Operand → String
  | .null => "NULL"
  | .bit true => "1"
  | .bit false => "0"
  | .parameter name => "@" ++ name

def Table.text (table : Table) : String :=
  Dialect.sqlServer.qualified table.schema table.name

namespace Assignment

def columnText (assignment : Assignment) : String :=
  Dialect.sqlServer.quote assignment.column

def valueText (assignment : Assignment) : String :=
  "(" ++ assignment.operand.text ++ ")"

end Assignment

theorem Operand.render_sql (operand : Operand) : operand.sql.render .sqlServer = operand.text := by
  rcases operand with _ | ⟨_ | _⟩ | name
  case parameter => simp [sql, text, Piece.render, Dialect.parameter, Dialect.sqlServer]
  all_goals rfl

theorem Table.render_sql (table : Table) : table.sql.render .sqlServer = table.text := by
  simp [sql, text, Piece.render, Dialect.qualified, String.append_assoc]

namespace Assignment

theorem render_valueSql (assignment : Assignment) :
    assignment.valueSql.render .sqlServer = assignment.valueText := by
  simp [valueSql, valueText, Piece.render, Operand.render_sql, String.append_assoc]

theorem render_sql (assignment : Assignment) :
    assignment.sql.render .sqlServer = assignment.columnText ++ "=" ++ assignment.valueText := by
  simp [sql, columnText, Piece.render, render_valueSql, String.append_assoc]

end Assignment

namespace Statement

/-- A row that is added with the given columns and values. -/
def rowText (table : Table) (columns values : List String) : String :=
  "INSERT INTO " ++ table.text ++ " (" ++ ",".intercalate columns ++ ")\nVALUES (" ++
    ",".intercalate values ++ ")"

/-- The pairs of a column and a value that a row is changed by. -/
def changesText (assignments : List Assignment) : String :=
  ",".intercalate
    (assignments.map fun assignment => assignment.columnText ++ "=" ++ assignment.valueText)

def insertText (table : Table) (assignments : List Assignment) : String :=
  (if assignments.isEmpty then "INSERT INTO " ++ table.text ++ " DEFAULT VALUES"
    else rowText table (assignments.map (·.columnText)) (assignments.map (·.valueText))) ++
    ";\nSELECT CAST(SCOPE_IDENTITY() AS int) AS insertId;"

def updateText (table : Table) (key : String) (assignments : List Assignment) : String :=
  (if assignments.isEmpty then ""
    else "UPDATE " ++ table.text ++ "\nSET " ++ changesText assignments ++ "\nWHERE " ++
      Dialect.sqlServer.quote key ++ " = (@id);\n") ++
    "SELECT @id AS pkid;"

/-- The texts of the batch that adds a row under its key. -/
def keyedTexts (table : Table) (key : String) (assignments : List Assignment) : List String := [
  "SET IDENTITY_INSERT " ++ table.text ++ " ON",
  rowText table (Dialect.sqlServer.quote key :: assignments.map (·.columnText))
    ("(@id)" :: assignments.map (·.valueText)),
  "SET IDENTITY_INSERT " ++ table.text ++ " OFF",
  "SELECT @id AS pkid"]

-- Unfolding the definition by its own equation is slow, as that compares long literals.
theorem rowText_eq (table : Table) (columns values : List String) :
    rowText table columns values = "INSERT INTO " ++ table.text ++ " (" ++
      ",".intercalate columns ++ ")\nVALUES (" ++ ",".intercalate values ++ ")" := rfl

theorem render_valuesSql (columns : List String) (values : List Sql) :
    (valuesSql columns values).render .sqlServer =
      " (" ++ ",".intercalate (columns.map Dialect.sqlServer.quote) ++ ")\nVALUES (" ++
        ",".intercalate (values.map (Sql.render .sqlServer)) ++ ")" := by
  have names : (columns.map fun column => [Piece.name column]).map (Sql.render .sqlServer) =
      columns.map Dialect.sqlServer.quote := by
    simp [Piece.render]
  simp [valuesSql, Sql.render_separated, names, Piece.render, String.append_assoc]

theorem render_keyTest (key : String) : (keyTest key).render .sqlServer =
    "WHERE " ++ Dialect.sqlServer.quote key ++ " = (@id)" := by
  simp [keyTest, keyParameter, Piece.render, Dialect.parameter, Dialect.sqlServer,
    String.append_assoc]

theorem render_reportSql : reportSql.render .sqlServer = "SELECT @id AS pkid" := by
  decide

section

variable (table : Table) (key : String) (assignments : List Assignment)

theorem render_columns : (assignments.map (·.column)).map Dialect.sqlServer.quote =
    assignments.map (·.columnText) := by
  simp [Assignment.columnText]

theorem render_values : (assignments.map Assignment.valueSql).map (Sql.render .sqlServer) =
    assignments.map (·.valueText) := by
  simp [Assignment.render_valueSql]

theorem render_changes : (Sql.separated "," (assignments.map Assignment.sql)).render .sqlServer =
    changesText assignments := by
  have changes : (assignments.map Assignment.sql).map (Sql.render .sqlServer) =
      assignments.map fun assignment => assignment.columnText ++ "=" ++ assignment.valueText := by
    simp [Assignment.render_sql]
  rw [Sql.render_separated, changes, changesText]

theorem text_insert : (Statement.insert table assignments).text = insertText table assignments := by
  cases empty : assignments.isEmpty with
  | true =>
      simp only [text, sql, insertText, empty, if_true, Sql.render_append, Table.render_sql]
      simp [Piece.render, String.append_assoc]
  | false =>
      simp only [text, sql, insertText, empty, Bool.false_eq_true, if_false, Sql.render_append,
        render_valuesSql, render_columns, render_values, Table.render_sql]
      rw [rowText_eq]
      simp [Piece.render, String.append_assoc]

theorem text_update :
    (Statement.update table key assignments).text = updateText table key assignments := by
  cases empty : assignments.isEmpty with
  | true =>
      simp only [text, sql, updateText, empty, if_true, Sql.render_append, render_reportSql]
      simp [Piece.render]
  | false =>
      simp only [text, sql, updateText, empty, Bool.false_eq_true, if_false, Sql.render_append,
        render_changes, render_keyTest, render_reportSql, Table.render_sql]
      simp only [Sql.render_cons, Sql.render_nil, Piece.render, String.append_empty,
        String.append_assoc]
      congr 4

theorem text_insertKeyed : (Statement.insertKeyed table key assignments).text =
    rowText table (Dialect.sqlServer.quote key :: assignments.map (·.columnText))
      ("(@id)" :: assignments.map (·.valueText)) := by
  have given : Sql.render .sqlServer [.text "(", .parameter keyParameter, .text ")"] = "(@id)" := by
    decide
  simp only [text, sql, Sql.render_append, render_valuesSql, List.map_cons, given, render_columns,
    render_values, Table.render_sql]
  rw [rowText_eq]
  simp [Piece.render, String.append_assoc]

theorem text_permitKeys (permitted : Bool) : (Statement.permitKeys table permitted).text =
    "SET IDENTITY_INSERT " ++ table.text ++ if permitted then " ON" else " OFF" := by
  simp [text, sql, Piece.render, Table.render_sql, String.append_assoc]

theorem texts_keyed :
    [permitKeys table true, insertKeyed table key assignments, permitKeys table false,
      reportKey].map text = keyedTexts table key assignments := by
  have report : text reportKey = "SELECT @id AS pkid" := render_reportSql
  simp [keyedTexts, text_permitKeys, text_insertKeyed, report]

end

end Statement

end SqlMapper
