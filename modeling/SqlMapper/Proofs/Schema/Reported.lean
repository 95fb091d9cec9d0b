import SqlMapper.Proofs.Decimal.Padded
import SqlMapper.Proofs.Schema.Converging
import SqlMapper.Proofs.Schema.Creations
import SqlMapper.Schema.Catalog

namespace SqlMapper.Schema

/-! What a database reports about what a script has created.

The catalog is filled from the text of the script alone.  There is a row for each column of
the table, and one for each column of each index, that of the primary key included.
-/

open Script (Creation Token)

/-- The length that is reported with a type: the declared one for `varchar`, the greatest one
for `text`, and none for other types. -/
def reportedLength (base : String) (settings : List Token) : Value :=
  if base = "varchar" then
    match settings with
    | .mark '(' :: .word digits :: _ =>
      ((Decimal.readNat? digits.toList).map fun length => .int (Int64.ofNat length)).getD .null
    | _ => .null
  else if base = "text" then .int 2147483647
  else .null

def columnRow (column : String) (nullable : Bool) (type : String) (length : Value) : Row :=
  .ofList [
    ("COLUMN_NAME", .text column),
    ("IS_NULLABLE", .text (if nullable then "YES" else "NO")),
    ("DATA_TYPE", .text type),
    ("CHARACTER_MAXIMUM_LENGTH", length)]

/-- The row for an item that defines a column. -/
def columnRow? : List Token → Option Row
  | .quoted .name column :: .quoted .name type :: settings =>
    some (columnRow column (.word "NOT" ∉ settings) (Text.lowerAscii type)
      (reportedLength (Text.lowerAscii type) settings))
  | _ => none

def coveredColumn? : List Token → Option IndexColumn
  | .quoted .name column :: .word order :: _ =>
    some { field := column, direction := if order = "DESC" then .descending else .ascending }
  | _ => none

/-- The index for an item that makes a column the primary key. -/
def keyIndex? (name : String) : List Token → Option StoredIndex
  | .word "PRIMARY" :: .word "KEY" :: .word _ :: .mark '(' :: covered =>
    (coveredColumn? covered).map fun column =>
      { name, columns := [column], unique := true, primaryKey := true }
  | _ => none

def createdIndex? (creation : Creation) : Option StoredIndex :=
  (creation.heading.findSome? fun
    | .quoted .name name => some name
    | _ => none).map fun name =>
    { name
      columns := creation.items.filterMap coveredColumn?
      unique := .word "UNIQUE" ∈ creation.heading
      primaryKey := false }

def indexRow (bit : Bool → Value) (stored : StoredIndex) (position : Nat)
    (column : IndexColumn) : Row :=
  .ofList [
    ("index_name", .text stored.name),
    ("column_name", .text column.field),
    ("seq_in_index", .int (Int64.ofNat (min position 0xFFFFFFFF))),
    ("is_unique", bit stored.unique),
    ("is_primary_key", bit stored.primaryKey),
    ("is_descending_key", bit (column.direction = .descending))]

/-- The rows for the columns of an index.  Positions stop at the greatest one that can be
reported. -/
def rowsFrom (bit : Bool → Value) (stored : StoredIndex) (position : Nat) :
    List IndexColumn → List Row
  | [] => []
  | column :: rest => indexRow bit stored position column :: rowsFrom bit stored (position + 1) rest

structure Report where
  columns : List Row
  /-- The rows of each index. -/
  indexes : List (List Row)

/-- What is reported about the table and the indexes of a script.  The index of the primary key
gets its name from the database, and a bit is shown as the database shows bits. -/
def report (keyName : String) (bit : Bool → Value) (text : String) : Report :=
  match Script.creations text with
  | [] => { columns := [], indexes := [] }
  | table :: indexes =>
    { columns := table.items.filterMap columnRow?
      indexes := (table.items.filterMap (keyIndex? keyName) ++
        indexes.filterMap createdIndex?).map fun stored => rowsFrom bit stored 1 stored.columns }

variable {model : Model}

/-! The report on the table of a model. -/

def ColumnType.base : ColumnType → String
  | .varchar _ => "varchar"
  | .text => "text"
  | .int => "int"
  | .datetime => "datetime"
  | .bit => "bit"
  | .float => "float"

def ColumnType.length : ColumnType → Value
  | .varchar length => .int (Int64.ofNat length.toNat)
  | .text => .int 2147483647
  | .int | .datetime | .bit | .float => .null

def fieldRow (field : Field) : Row :=
  columnRow field.name field.nullable (ColumnType.ofField field).base
    (ColumnType.ofField field).length

def keyRow (model : Model) : Row :=
  columnRow model.key false "int" .null

/-- The index of the primary key. -/
def keyStored (keyName : String) (model : Model) : StoredIndex where
  name := keyName
  columns := [{ field := model.key, direction := .ascending }]
  unique := true
  primaryKey := true

theorem typeTokens_eq (type : ColumnType) :
    typeTokens type = .quoted .name type.base :: (typeTokens type).tail := by
  cases type <;> rfl

theorem lowerAscii_base (type : ColumnType) : Text.lowerAscii type.base = type.base := by
  cases type <;> simp only [ColumnType.base] <;> decide +kernel

theorem number_ne_not (number : Nat) : "NOT" ≠ number.repr := by
  intro same
  have member : 'N' ∈ (toString number).toList := by
    rw [Nat.toString_eq_repr, ← same]
    decide
  exact absurd (Sql.isDigit_of_mem_toString member) (by decide)

theorem not_null_iff (type : ColumnType) (nullable : Bool) :
    .word "NOT" ∉ (typeTokens type).tail ++ nullTokens nullable ↔ nullable = true := by
  cases type with
  | varchar length =>
      cases nullable <;> simp [typeTokens, nullTokens, number_ne_not length.toNat]
  | text | int | datetime | bit | float => cases nullable <;> simp [typeTokens, nullTokens]

theorem reportedLength_typeTokens (type : ColumnType) (nullable : Bool) :
    reportedLength type.base ((typeTokens type).tail ++ nullTokens nullable) = type.length := by
  cases type with
  | varchar length =>
      simp [reportedLength, ColumnType.base, ColumnType.length, typeTokens,
        Decimal.readNat?_toDigits]
  | text | int | datetime | bit | float => rfl

theorem columnRow?_columnItem (field : Field) :
    columnRow? (columnItem field) = some (fieldRow field) := by
  have length := reportedLength_typeTokens (.ofField field) field.nullable
  rw [columnItem, typeTokens_eq, List.cons_append, columnRow?, lowerAscii_base, length]
  simp only [not_null_iff, Bool.decide_eq_true]
  rfl

theorem filterMap_written {α β γ : Type} {write : α → β} {read : β → Option γ} {result : α → γ}
    (each : ∀ item, read (write item) = some (result item)) (items : List α) :
    (items.map write).filterMap read = items.map result := by
  have same : read ∘ write = some ∘ result := funext each
  rw [List.filterMap_map, same, List.filterMap_eq_map]

theorem createdIndex?_indexCreation (ddl : Settings) (model : Model) (index : Index) :
    createdIndex? (indexCreation ddl model index) = some (createdStored index) := by
  have covered (column : IndexColumn) : coveredColumn? (coveredItem column) = some column := by
    obtain ⟨field, direction⟩ := column
    cases direction <;> rfl
  have columns : (index.columns.map coveredItem).filterMap coveredColumn? = index.columns :=
    (filterMap_written covered index.columns).trans (List.map_id _)
  have plain : "UNIQUE" ≠ index.kind.keyword := by cases index.kind <;> decide
  unfold createdIndex? indexCreation createdStored
  cases unique : index.unique <;> simp [columns, tableTokens, plain]

theorem report_createTable (keyName : String) (bit : Bool → Value) (ddl : Settings)
    (nonempty : ∀ index ∈ model.allIndexes, index.columns ≠ []) :
    report keyName bit ((Ddl.createTable ddl model).render .sqlServer) =
      { columns := keyRow model :: model.columns.map fieldRow
        indexes := (keyStored keyName model :: model.allIndexes.map createdStored).map
          fun stored => rowsFrom bit stored 1 stored.columns } := by
  have columns : (tableCreation ddl model).items.filterMap columnRow? =
      keyRow model :: model.columns.map fieldRow := by
    have key : columnRow? (keyItem model) = some (keyRow model) := rfl
    have constraint : columnRow? (constraintItem ddl model) = none := rfl
    simp [tableCreation, key, constraint, filterMap_written columnRow?_columnItem]
  have keyIndex : (tableCreation ddl model).items.filterMap (keyIndex? keyName) =
      [keyStored keyName model] := by
    have key : keyIndex? keyName (keyItem model) = none := rfl
    have fields : (model.columns.map columnItem).filterMap (keyIndex? keyName) = [] :=
      List.filterMap_eq_nil_iff.mpr fun item member => by
        obtain ⟨field, _, same⟩ := List.mem_map.mp member
        exact same ▸ rfl
    have constraint : keyIndex? keyName (constraintItem ddl model) =
        some (keyStored keyName model) := rfl
    simp [tableCreation, key, fields, constraint]
  rw [report, creations_createTable ddl nonempty]
  simp only [columns, keyIndex, filterMap_written (createdIndex?_indexCreation ddl model)]
  rfl

end SqlMapper.Schema
