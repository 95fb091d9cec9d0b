import Mathlib.Data.List.Perm.Basic
import SqlMapper.Proofs.Schema.Reported
import SqlMapper.Proofs.Schema.UpToDate

namespace SqlMapper.Schema

/-! Reading a new table back.

The catalog of a new table is read without a fault, and what is read is the table that the
model declares.  So nothing is planned for it.
-/

open Text (sameName sameName_refl)

variable {model : Model} {index : Index} {field : Field} {bit : Bool → Value}
  {facts : TableFacts} {keyName : String} {stored : StoredIndex}

/-! Reading rows. -/

theorem column_columnRow (column : String) (nullable : Bool) (type : String) (length : Value) :
    Catalog.column (columnRow column nullable type length) =
      .ok { name := column, nullable, type := Catalog.sizedType type length.asInt? } := by
  have read : Catalog.column (columnRow column nullable type length) =
      .ok {
        name := column
        nullable := sameName (if nullable then "YES" else "NO") "YES"
        type := Catalog.sizedType type length.asInt? } := by
    simp [columnRow, Catalog.column, Catalog.requiredText, Row.text?, Row.int?, SortedTable.ofList,
      SortedTable.get?_insert_of_ne, Value.asText?]
    rfl
  have flag : sameName (if nullable then "YES" else "NO") "YES" = nullable := by
    cases nullable <;> decide +kernel
  rw [read, flag]

/-- How a bit of the database is shown: as a truth value or as a number. -/
def ShowsBits (bit : Bool → Value) : Prop :=
  ∀ flag, bit flag = .bool flag ∨ bit flag = .int (if flag then 1 else 0)

/-- The entry that a row for a column of an index is read as. -/
def indexEntry (stored : StoredIndex) (position : Nat) (column : IndexColumn) : IndexEntry where
  index := stored.name
  column := column.field
  position := UInt32.ofNat (min position 0xFFFFFFFF)
  unique := stored.unique
  primaryKey := stored.primaryKey
  descending := column.direction = .descending

theorem bool?_bit (shows : ShowsBits bit) (flag : Bool) :
    (if (bit flag).isNull then none else some (bit flag).truthy) = some flag := by
  rcases shows flag with same | same <;> rw [same] <;> cases flag <;> rfl

theorem position_read (position : Nat) :
    (Int64.ofNat (min position 0xFFFFFFFF)).toInt = (min position 0xFFFFFFFF : Nat) :=
  Int64.toInt_ofNat_of_lt (by omega)

theorem indexEntry_indexRow (shows : ShowsBits bit) (stored : StoredIndex) (position : Nat)
    (column : IndexColumn) :
    Catalog.indexEntry (indexRow bit stored position column) =
      .ok (indexEntry stored position column) := by
  have placed : Catalog.position (indexRow bit stored position column) =
      .ok (UInt32.ofNat (min position 0xFFFFFFFF)) := by
    have given : Row.int? (indexRow bit stored position column) "seq_in_index" =
        some (Int64.ofNat (min position 0xFFFFFFFF)) := by
      simp [indexRow, Row.int?, SortedTable.ofList, SortedTable.get?_insert_of_ne, Value.asInt?]
    have fits : 0 ≤ ((min position 0xFFFFFFFF : Nat) : Int) ∧
        ((min position 0xFFFFFFFF : Nat) : Int) < 0x100000000 := by omega
    rw [Catalog.position, given]
    simp only [position_read]
    rw [if_pos fits, Int.toNat_natCast]
  rw [Catalog.indexEntry, placed]
  simp [indexRow, Catalog.requiredText, Row.text?, Row.bool?, SortedTable.ofList,
    SortedTable.get?_insert_of_ne, Value.asText?, bool?_bit shows]
  rfl

/-! The columns of a new table. -/

/-- The type that is read for a column. -/
def ColumnType.readBack (type : ColumnType) : String :=
  Catalog.sizedType type.base type.length.asInt?

theorem readBack_varchar (length : UInt32) :
    (ColumnType.varchar length).readBack = "varchar(" ++ toString length.toNat ++ ")" := by
  have sized : Catalog.sizedTypes.contains (Text.lower "varchar") = true := by decide +kernel
  have number : (Int64.ofNat length.toNat).toInt = length.toNat :=
    Int64.toInt_ofNat_of_lt (by have := length.toNat_lt; omega)
  have counted : Int64.ofNat length.toNat ≠ -1 := by
    intro greatest
    have negative : (length.toNat : Int) = -1 := by
      rw [← number, greatest]
      rfl
    omega
  simp only [ColumnType.readBack, ColumnType.base, ColumnType.length, Value.asInt?,
    Catalog.sizedType, sized, if_true, if_neg counted, number]
  rfl

theorem spelledBy_readBack (type : ColumnType) : type.spelledBy type.readBack = true := by
  cases type with
  | varchar length =>
      have spelled : (ColumnType.varchar length).render =
          "[varchar](" ++ toString length.toNat ++ ")" := rfl
      have opened : ("[varchar](".toList.filter fun char =>
          char != '[' && char != ']' && !Text.isBlank char) = "varchar(".toList.filter fun char =>
          char != '[' && char != ']' && !Text.isBlank char := by decide +kernel
      rw [ColumnType.spelledBy, readBack_varchar, spelled, beq_iff_eq, ColumnType.normalized,
        ColumnType.normalized]
      simp only [String.toList_append, List.filter_append, opened]
  | text | int | datetime | bit | float => decide +kernel

def fieldColumn (field : Field) : StoredColumn where
  name := field.name
  nullable := field.nullable
  type := (ColumnType.ofField field).readBack

def keyColumn (model : Model) : StoredColumn where
  name := model.key
  nullable := false
  type := "int"

theorem column_fieldRow (field : Field) :
    Catalog.column (fieldRow field) = .ok (fieldColumn field) :=
  column_columnRow _ _ _ _

theorem column_keyRow (model : Model) : Catalog.column (keyRow model) = .ok (keyColumn model) := by
  rw [keyRow, column_columnRow]
  rfl

theorem mapM_written {α β γ ε : Type} {write : α → β} {read : β → Except ε γ} {result : α → γ}
    (each : ∀ item, read (write item) = .ok (result item)) (items : List α) :
    (items.map write).mapM read = .ok (items.map result) := by
  induction items with
  | nil => rfl
  | cons item items ih =>
      rw [List.map_cons, List.mapM_cons, each, ih]
      rfl

theorem mapM_column (model : Model) :
    (keyRow model :: model.columns.map fieldRow).mapM Catalog.column =
      .ok (keyColumn model :: model.columns.map fieldColumn) := by
  rw [List.mapM_cons, column_keyRow, mapM_written column_fieldRow]
  rfl

/-! The indexes of a new table. -/

def storedEntries (stored : StoredIndex) (position : Nat) : List IndexColumn → List IndexEntry
  | [] => []
  | column :: rest => indexEntry stored position column :: storedEntries stored (position + 1) rest

theorem mapM_rowsFrom (shows : ShowsBits bit) (stored : StoredIndex) (position : Nat)
    (columns : List IndexColumn) :
    (rowsFrom bit stored position columns).mapM Catalog.indexEntry =
      .ok (storedEntries stored position columns) := by
  induction columns generalizing position with
  | nil => rfl
  | cons column rest ih =>
      rw [rowsFrom, List.mapM_cons, indexEntry_indexRow shows, ih]
      rfl

theorem mapM_groups (shows : ShowsBits bit) (storeds : List StoredIndex) :
    (storeds.map fun stored => rowsFrom bit stored 1 stored.columns).flatten.mapM
        Catalog.indexEntry =
      .ok (storeds.flatMap fun stored => storedEntries stored 1 stored.columns) := by
  induction storeds with
  | nil => rfl
  | cons stored rest ih =>
      rw [List.map_cons, List.flatten_cons, List.mapM_append, mapM_rowsFrom shows, ih]
      rfl

theorem storedEntries_createdStored (index : Index) :
    storedEntries (createdStored index) 1 index.columns = createdEntries index := by
  unfold createdEntries
  generalize 1 = position
  induction index.columns generalizing position with
  | nil => rfl
  | cons column rest ih => exact congrArg (List.cons _) (ih (position + 1))

theorem storedEntries_named {stored : StoredIndex} {position : Nat} {columns : List IndexColumn}
    {entry : IndexEntry} (member : entry ∈ storedEntries stored position columns) :
    entry.index = stored.name ∧ entry.primaryKey = stored.primaryKey := by
  induction columns generalizing position with
  | nil => cases member
  | cons column rest ih =>
      rcases List.mem_cons.mp member with same | later
      · subst same
        exact ⟨rfl, rfl⟩
      · exact ih later

/-! No difference. -/

/-- What is read of a new table.  Its indexes may come in any order. -/
structure NewTable (model : Model) (keyName : String) (facts : TableFacts) : Prop where
  columns : facts.columns = keyColumn model :: model.columns.map fieldColumn
  indexes : ∃ storeds : List StoredIndex,
    storeds.Perm (keyStored keyName model :: model.allIndexes.map createdStored) ∧
      facts.indexes = storeds.flatMap fun stored => storedEntries stored 1 stored.columns

theorem columns_newTable (unambiguous : Unambiguous model)
    (fresh : NewTable model keyName facts) : DistinctNames (facts.columns.map (·.name)) := by
  have names : facts.columns.map (·.name) = model.key :: model.columns.map (·.name) := by
    rw [fresh.columns, List.map_cons, List.map_map]
    rfl
  rw [names]
  exact unambiguous.columns

/-- Under the name of a declared index stand the entries made for it. -/
theorem filter_newTable (unambiguous : Unambiguous model)
    (otherName : ∀ index ∈ model.allIndexes, index.resolvedName ≠ keyName)
    (fresh : NewTable model keyName facts) (member : index ∈ model.allIndexes) :
    facts.indexes.filter (·.index == index.resolvedName) = createdEntries index := by
  obtain ⟨storeds, same, indexes⟩ := fresh.indexes
  have apart : ((keyStored keyName model :: model.allIndexes.map createdStored).map
      (·.name)).Nodup := by
    rw [List.map_cons, List.map_map, List.nodup_cons]
    refine ⟨fun taken => ?_, unambiguous.indexes.imp Text.ne_of_apart⟩
    obtain ⟨other, included, named⟩ := List.mem_map.mp taken
    exact otherName other included named
  have distinct : (storeds.map (·.name)).Nodup := (same.map (·.name)).nodup_iff.mpr apart
  have included : createdStored index ∈ storeds :=
    same.mem_iff.mpr (List.mem_cons_of_mem _ (List.mem_map_of_mem member))
  rw [indexes, ← storedEntries_createdStored]
  exact filter_flatMap_named (fun _ _ inside => (storedEntries_named inside).1) distinct included

theorem storedIndex?_newTable (unambiguous : Unambiguous model)
    (nonempty : ∀ index ∈ model.allIndexes, index.columns ≠ [])
    (otherName : ∀ index ∈ model.allIndexes, index.resolvedName ≠ keyName)
    (fresh : NewTable model keyName facts) (member : index ∈ model.allIndexes) :
    storedIndex? index.resolvedName facts.indexes = some (createdStored index) := by
  rw [← storedIndex?_createdEntries (nonempty index member)]
  refine storedIndex?_congr ?_
  rw [filter_newTable unambiguous otherName fresh member, filter_createdEntries_self]

/-- The indexes of a new table, apart from that of the key, are the declared ones. -/
theorem exists_created (unambiguous : Unambiguous model)
    (nonempty : ∀ index ∈ model.allIndexes, index.columns ≠ [])
    (otherName : ∀ index ∈ model.allIndexes, index.resolvedName ≠ keyName)
    (fresh : NewTable model keyName facts) (secondary : stored ∈ secondaryIndexes facts) :
    ∃ index ∈ model.allIndexes, stored = createdStored index := by
  obtain ⟨found, notKey⟩ := mem_secondaryIndexes.mp secondary
  obtain ⟨first, included, named, _, _, keyOf, _⟩ := exists_first found
  obtain ⟨storeds, same, indexes⟩ := fresh.indexes
  rw [indexes] at included
  obtain ⟨origin, present, inside⟩ := List.mem_flatMap.mp included
  obtain ⟨ofOrigin, keyOfOrigin⟩ := storedEntries_named inside
  rcases List.mem_cons.mp (same.mem_iff.mp present) with ofKey | created
  · rw [keyOf, keyOfOrigin, ofKey] at notKey
    cases notKey
  · obtain ⟨index, declared, isCreated⟩ := List.mem_map.mp created
    have again := storedIndex?_newTable unambiguous nonempty otherName fresh declared
    have sameName : index.resolvedName = stored.name := by
      rw [← named, ofOrigin, ← isCreated]
      rfl
    rw [sameName, found] at again
    exact ⟨index, declared, Option.some.inj again⟩

theorem diff_newTable (unambiguous : Unambiguous model)
    (nonempty : ∀ index ∈ model.allIndexes, index.columns ≠ [])
    (otherName : ∀ index ∈ model.allIndexes, index.resolvedName ≠ keyName)
    (fresh : NewTable model keyName facts) :
    diff model facts = { changes := [], mismatches := [] } := by
  have distinct := columns_newTable unambiguous fresh
  refine diff_eq_empty (changes_eq_nil ?_ ?_ ?_ ?_) ?_
  · intro field member
    have present : fieldColumn field ∈ facts.columns := by
      rw [fresh.columns]
      exact List.mem_cons_of_mem _ (List.mem_map_of_mem member)
    refine ⟨fieldColumn field, column?_eq_some distinct present (sameName_refl _), ?_⟩
    rw [StoredColumn.fits, fieldColumn, spelledBy_readBack]
    simp
  · intro column member
    rw [isDeclared_iff]
    rw [fresh.columns] at member
    rcases List.mem_cons.mp member with ofKey | ofField
    · rw [ofKey]
      exact .inr (.inl (sameName_refl _))
    · obtain ⟨field, declared, same⟩ := List.mem_map.mp ofField
      rw [← same]
      exact .inl ⟨field, declared, sameName_refl _⟩
  · intro stored secondary
    obtain ⟨index, declared, created⟩ :=
      exists_created unambiguous nonempty otherName fresh secondary
    exact ⟨index, created ▸ serves_created unambiguous declared⟩
  · intro index member
    have found := storedIndex?_newTable unambiguous nonempty otherName fresh member
    exact ⟨createdStored index, mem_secondaryIndexes.mpr ⟨found, rfl⟩,
      serves_created unambiguous member⟩
  · have int : ColumnType.normalized "int" = "INT" := by decide +kernel
    refine (keyMismatch?_eq_none distinct).mpr ⟨keyColumn model, ?_, sameName_refl _, int⟩
    rw [fresh.columns]
    exact List.mem_cons_self

/-! Reading. -/

/-- The database answers the questions about a table as a report says.  The rows of an index
stay together and in order, and the indexes come in any order. -/
structure Answers {σ : Type} (server : Server database σ) (schema table : String)
    (report : Report) : Prop where
  columns : ∀ state, (server (Catalog.columnsCall schema table) state).1 = .ok report.columns
  indexes : ∀ state, ∃ groups : List (List Row), groups.Perm report.indexes ∧
    (server (Catalog.indexesCall schema table) state).1 = .ok groups.flatten

/-- A new table is read without a fault, and nothing is planned for it. -/
theorem created_table_read_back {σ : Type} {server : Server database σ} {declared : Model}
    {settings ddl : Settings} {schema : String}
    (accepted : declared.settled settings = .ok model) (unambiguous : Unambiguous model)
    (otherName : ∀ index ∈ model.allIndexes, index.resolvedName ≠ keyName)
    (bits : ShowsBits bit)
    (answers : Answers server schema model.tableName
      (report keyName bit ((Ddl.createTable ddl model).render .sqlServer)))
    (state : σ) :
    ∃ facts : TableFacts,
      ((Catalog.columns schema model.tableName).run server state).value = .ok facts.columns ∧
        ((Catalog.indexes schema model.tableName).run server state).value = .ok facts.indexes ∧
        diff model facts = { changes := [], mismatches := [] } := by
  have nonempty : ∀ index ∈ model.allIndexes, index.columns ≠ [] :=
    fun index member => Model.columns_ne_nil_of_settled accepted member
  rw [report_createTable keyName bit ddl nonempty] at answers
  obtain ⟨groups, order, listed⟩ := answers.indexes state
  obtain ⟨storeds, same, reordered⟩ := (congrFun₂ (List.eq_map_comp_perm fun stored =>
    rowsFrom bit stored 1 stored.columns) groups _).mpr order
  let facts : TableFacts := {
    columns := keyColumn model :: model.columns.map fieldColumn
    indexes := storeds.flatMap fun stored => storedEntries stored 1 stored.columns }
  have fresh : NewTable model keyName facts := ⟨rfl, storeds, reordered, rfl⟩
  refine ⟨facts, ?_, ?_, diff_newTable unambiguous nonempty otherName fresh⟩
  · have asked : ((Catalog.columns schema model.tableName).run server state).value =
        Catalog.readRows model.tableName (Catalog.columnsCall schema model.tableName)
          Catalog.column (server (Catalog.columnsCall schema model.tableName) state).1 := rfl
    rw [asked, answers.columns, Catalog.readRows, mapM_column]
  · have asked : ((Catalog.indexes schema model.tableName).run server state).value =
        Catalog.readRows model.tableName (Catalog.indexesCall schema model.tableName)
          Catalog.indexEntry (server (Catalog.indexesCall schema model.tableName) state).1 := rfl
    rw [asked, listed, Catalog.readRows, same, mapM_groups bits]

/-- A database that answers questions about one table. -/
def catalogOf (report : Report) : Server database Unit :=
  fun call state =>
    (.ok (if call.text = Catalog.columnsText then report.columns else report.indexes.flatten),
      state)

theorem answers_catalogOf (schema table : String) (report : Report) :
    Answers (catalogOf report) schema table report where
  columns := fun state => congrArg Except.ok (if_pos rfl)
  indexes := fun state => by
    have other : Catalog.indexesText ≠ Catalog.columnsText := by decide +kernel
    exact ⟨report.indexes, .refl _, congrArg Except.ok (if_neg other)⟩

theorem created_table_read_back_goods :
    ∃ facts : TableFacts,
      ((Catalog.columns "dbo" "Goods").run (catalogOf (report "PK_Goods" .bool
        ((Ddl.createTable {} goods).render .sqlServer))) ()).value = .ok facts.columns ∧
      ((Catalog.indexes "dbo" "Goods").run (catalogOf (report "PK_Goods" .bool
        ((Ddl.createTable {} goods).render .sqlServer))) ()).value = .ok facts.indexes ∧
      diff goods facts = { changes := [], mismatches := [] } := by
  have accepted : goods.settled {} = .ok goods := rfl
  have otherName : ∀ index ∈ goods.allIndexes, index.resolvedName ≠ "PK_Goods" := by
    decide +kernel
  exact created_table_read_back accepted unambiguous_goods otherName (fun _ => .inl rfl)
    (answers_catalogOf "dbo" "Goods" _) ()

end SqlMapper.Schema
