import SqlMapper.Proofs.Schema.Listing
import SqlMapper.Proofs.Statement.Declared

namespace SqlMapper.Schema

/-! What is read in the statements that create tables and indexes.

Behind the guard of such a statement stands a table or an index, with a list of
what it is made of.  Whatever the names are, a reader finds these lists and no
others: the columns that a table declares, and those that an index covers.
-/

open Script (Inert Leads Place Reading walks_flatMap walks_list walks_text)
open Sql (Detached Legible detached_append detached_text isNameChar legible_flatMap legible_literal
  legible_name legible_separated legible_text)

variable {settings : Settings} {model : Model} {index : Index} {keyword : String} {place : Place}

theorem legible_table (table : Table) : Legible table.sql :=
  (legible_name _).followed (by decide) (legible_name _)

theorem walks_table (keyword : String) (table : Table) :
    (Place.announced keyword).Walks table.sql [] (.announced keyword) :=
  .name rfl (.words rfl (.name rfl (Place.walks_nil _)))

theorem inert_keyOptions : Inert keyOptions := by
  unfold keyOptions
  rw [← String.ofList_append]
  exact ⟨legible_text (by decide +kernel), fun _ _ => walks_text rfl⟩

theorem legible_indexOptions : Legible [.text indexOptions] := by
  unfold indexOptions
  rw [← String.ofList_append, ← String.ofList_append]
  exact legible_text (by decide +kernel)

theorem walks_indexOptions : Place.outside.Walks [.text indexOptions] [] .outside := by
  unfold indexOptions
  rw [← String.ofList_append, ← String.ofList_append]
  exact walks_text (by decide +kernel)

theorem scan_number (number : Nat) :
    Reading.scan .between (toString number).toList = ([], .word (toString number).toList) := by
  have named : ∀ char ∈ (toString number).toList, isNameChar char = true := by
    intro char member
    have digit := Sql.isDigit_of_mem_toString member
    simp [isNameChar, Char.isAlphanum, digit]
  have given : (toString number).toList ≠ [] := by
    rw [Nat.toString_eq_ofList_toDigits, String.toList_ofList]
    exact Nat.toDigits_ne_nil
  exact Reading.scan_letters named given

theorem scan_varchar (length : Nat) (chars : List Char) :
    Reading.scan .between (" [varchar](".toList ++ (toString length).toList ++ ')' :: chars) =
      ([Script.Token.quoted .name "varchar", .mark '(', .word (toString length), .mark ')'] ++
        (Reading.scan .between chars).1, (Reading.scan .between chars).2) := by
  have opened : Reading.scan .between " [varchar](".toList =
      ([.quoted .name "varchar", .mark '('], .between) := by decide +kernel
  have closed (read : List Char) : Reading.step (.word read) ')' =
      ([.word (String.ofList read), .mark ')'], .between) := rfl
  rw [Reading.scan_append, Reading.scan_append, opened, scan_number, Reading.scan, closed,
    String.ofList_toList]
  rfl

theorem toList_varchar (length : UInt32) (tail : String) :
    (" " ++ ((ColumnType.varchar length).render ++ tail)).toList =
      " [varchar](".toList ++ (toString length.toNat).toList ++ ')' :: tail.toList := by
  have decimal : toString length = toString length.toNat := rfl
  simp [ColumnType.render, decimal]

theorem inert_columnType (type : ColumnType) (nullable : Bool) :
    Inert (" " ++ (type.render ++ if nullable then " NULL" else " NOT NULL")) := by
  cases type with
  | varchar length =>
      -- The length is the one part that is not fixed.  A reader takes it for a word.
      refine Script.inert_of_scan (by rw [toList_varchar, scan_varchar]) ?_ fun keyword names => ?_
      · cases nullable <;> decide +kernel
      · cases nullable <;> rfl
  | text | int | datetime | bit | float =>
      cases nullable <;>
        simp only [ColumnType.render, String.reduceAppend, if_true, if_false,
          Bool.false_eq_true] <;>
        exact ⟨legible_text (by decide), fun _ _ => walks_text rfl⟩

theorem legible_offAzure {words : String} (legible : Legible [.text words]) (settings : Settings) :
    Legible (offAzure settings words) := by
  unfold offAzure
  split
  · trivial
  · exact legible

theorem walks_offAzure {words : String} (walks : place.Walks [.text words] [] place)
    (settings : Settings) : place.Walks (offAzure settings words) [] place := by
  unfold offAzure
  split
  · exact place.walks_nil
  · exact walks

/-! The definitions of a table. -/

theorem legible_column (field : Field) : Legible (Ddl.column field) := by
  have settings := (inert_columnType (.ofField field) field.nullable).legible
  exact (legible_name _).append settings (detached_append (by decide) _)

theorem leads_column (field : Field) : Leads keyword (Ddl.column field) [field.name] := by
  intro names
  exact .name rfl ((inert_columnType _ field.nullable).walks keyword _)

theorem legible_keyConstraint (settings : Settings) (model : Model) :
    Legible (Ddl.keyConstraint settings model) := by
  have options := legible_offAzure inert_keyOptions.legible settings
  exact .settled (by decide) ((legible_name _).followed (by decide) options)

theorem leads_keyConstraint (settings : Settings) (model : Model) :
    Leads keyword (Ddl.keyConstraint settings model) [] := by
  intro names
  rw [List.append_nil]
  refine Place.Walks.on ?_ (walks_offAzure (inert_keyOptions.walks keyword names) settings)
  exact .words rfl (.name rfl (.words rfl (Place.walks_nil _)))

theorem legible_definitions (settings : Settings) (model : Model) :
    ∀ part ∈ Ddl.definitions settings model, Legible part := by
  intro part member
  rcases List.mem_append.mp member with inFront | last
  · rcases List.mem_cons.mp inFront with key | column
    · rw [key]
      exact (legible_name _).append (legible_text (by decide)) (detached_text (by decide))
    · obtain ⟨field, _, same⟩ := List.mem_map.mp column
      rw [← same]
      exact legible_column field
  · rw [List.mem_singleton.mp last]
    exact legible_keyConstraint settings model

theorem leads_definitions (settings : Settings) (model : Model) :
    List.Forall₂ (Leads keyword) (Ddl.definitions settings model)
      ([model.key] :: model.columns.map (fun field => [field.name]) ++ [[]]) := by
  refine List.rel_append (.cons ?_ ?_) (.cons (leads_keyConstraint settings model) .nil)
  · intro names
    exact .name rfl (.words rfl (Place.walks_nil _))
  · rw [List.forall₂_map_left_iff, List.forall₂_map_right_iff, List.forall₂_same]
    exact fun field _ => leads_column field

/-! The statement that creates an index. -/

def indexItem (column : IndexColumn) : Sql :=
  [.text "    ", .name column.field, .text (" " ++ column.direction.keyword)]

/-- The words that say what kind of index is created. -/
def indexWords (index : Index) : Sql :=
  [.text (if index.unique then "UNIQUE " else ""), .text (index.kind.keyword ++ " INDEX ")]

theorem createIndex_eq (settings : Settings) (model : Model) (index : Index) :
    Ddl.createIndex settings model index =
      .text "IF NOT EXISTS (SELECT * FROM sys.indexes WHERE name = " ::
      .literal index.resolvedName :: .text " AND object_id = OBJECT_ID(" ::
      Ddl.tableLiteral (Ddl.table settings model) :: .text "))\nCREATE " ::
      (indexWords index ++ Piece.name index.resolvedName :: .text " ON " ::
        ((Ddl.table settings model).sql ++ Piece.text "\n(\n" ::
          ((Sql.separated ",\n" (index.columns.map indexItem) ++ [Piece.text "\n)"]) ++
            offAzure settings indexOptions))) := by
  simp [Ddl.createIndex, indexWords]
  rfl

theorem legible_indexWords {rest : Sql} (index : Index) (later : Legible rest) :
    Legible (indexWords index ++ rest) := by
  unfold indexWords
  cases index.unique <;> cases index.kind <;>
    simp only [IndexKind.keyword, String.reduceAppend, if_true, if_false, Bool.false_eq_true] <;>
    exact .settled (by decide) (.settled (by decide) later)

theorem walks_indexWords (index : Index) :
    Place.outside.Walks (indexWords index) [] (.announced "INDEX") := by
  unfold indexWords
  cases index.unique <;> cases index.kind <;>
    simp only [IndexKind.keyword, String.reduceAppend, if_true, if_false, Bool.false_eq_true] <;>
    exact .words rfl (walks_text rfl)

theorem legible_indexItem (column : IndexColumn) : Legible (indexItem column) := by
  refine .settled (by decide) ((legible_name _).append ?_ (detached_append (by decide) _))
  cases column.direction with
  | ascending | descending =>
      simp only [Direction.keyword, String.reduceAppend]
      exact legible_text (by decide)

theorem leads_indexItem (column : IndexColumn) :
    Leads keyword (indexItem column) [column.field] := by
  intro names
  refine .words rfl (.name rfl ?_)
  cases column.direction with
  | ascending | descending =>
      simp only [Direction.keyword, String.reduceAppend]
      exact walks_text rfl

theorem legible_indexItems (index : Index) :
    Legible (Sql.separated ",\n" (index.columns.map indexItem)) := by
  refine legible_separated (by decide) fun part member => ?_
  obtain ⟨column, _, same⟩ := List.mem_map.mp member
  rw [← same]
  exact legible_indexItem column

theorem walks_indexItems (index : Index) :
    (Place.leading "INDEX" []).Walks
      (Sql.separated ",\n" (index.columns.map indexItem) ++ [.text "\n)"])
      [{ keyword := "INDEX", names := index.fields }] .outside := by
  have items : List.Forall₂ (Leads "INDEX") (index.columns.map indexItem)
      (index.columns.map fun column => [column.field]) := by
    rw [List.forall₂_map_left_iff, List.forall₂_map_right_iff, List.forall₂_same]
    exact fun column _ => leads_indexItem column
  have fields : (index.columns.map fun column => [column.field]).flatten = index.fields := by
    rw [← List.flatMap_def, ← List.map_eq_flatMap, Index.fields]
  rw [← fields, ← List.nil_append (List.flatten _)]
  exact walks_list (fun _ => rfl) items []

theorem legible_createIndex (settings : Settings) (model : Model) (index : Index) :
    Legible (Ddl.createIndex settings model index) := by
  rw [createIndex_eq, ← List.append_cons]
  refine .settled (by decide) ((legible_literal _).followed (by decide) ?_)
  refine (legible_literal _).followed (by decide) (legible_indexWords index ?_)
  refine (legible_name _).followed (by decide) ?_
  refine (legible_table _).followed (by decide) ?_
  have options := legible_offAzure legible_indexOptions settings
  exact (legible_indexItems index).followed (by decide) options

theorem walks_createIndex (settings : Settings) (model : Model) (index : Index) :
    Place.outside.Walks (Ddl.createIndex settings model index)
      [{ keyword := "INDEX", names := index.fields }] .outside := by
  rw [createIndex_eq]
  refine .words rfl (.literal (.words rfl (.literal (.words rfl ?_))))
  refine (walks_indexWords index).on (.name rfl (.words rfl ?_))
  refine (walks_table _ _).on (.words rfl ?_)
  exact (walks_indexItems index).append (walks_offAzure walks_indexOptions settings)

/-! The statement that creates a table. -/

/-- What is written behind a table for an index. -/
def indexStatement (settings : Settings) (model : Model) (index : Index) : Sql :=
  .text "\n" :: (Ddl.createIndex settings model index ++ [.text ";"])

theorem createTable_eq (settings : Settings) (model : Model) :
    Ddl.createTable settings model =
      .text "SET ANSI_NULLS ON;\nSET QUOTED_IDENTIFIER ON;\nSET ANSI_PADDING ON;\nIF NOT " ::
      (Ddl.tableExists (Ddl.table settings model) ++ Piece.text "\nBEGIN\nCREATE TABLE " ::
        ((Ddl.table settings model).sql ++ Piece.text " (\n    " ::
          ((Sql.separated ",\n    " (Ddl.definitions settings model) ++ [Piece.text "\n)"]) ++
            (offAzure settings " ON [PRIMARY]" ++ Piece.text "\nEND;" ::
              model.allIndexes.flatMap (indexStatement settings model))))) := by
  simp [Ddl.createTable]
  rfl

theorem legible_tableExists (table : Table) : Legible (Ddl.tableExists table) := by
  refine .settled (by decide) ((legible_literal _).followed (by decide) ?_)
  exact (legible_literal _).followed (by decide) trivial

theorem walks_tableExists (table : Table) :
    Place.outside.Walks (Ddl.tableExists table) [] .outside :=
  .words rfl (.literal (.words rfl (.literal (walks_text rfl))))

theorem legible_indexStatement (settings : Settings) (model : Model) (index : Index) :
    Legible (indexStatement settings model index) :=
  .settled (by decide) ((legible_createIndex settings model index).followed (by decide) trivial)

theorem walks_indexStatement (settings : Settings) (model : Model) (index : Index) :
    Place.outside.Walks (indexStatement settings model index)
      [{ keyword := "INDEX", names := index.fields }] .outside :=
  .words rfl ((walks_createIndex settings model index).append (walks_text rfl))

theorem legible_createTable (settings : Settings) (model : Model) :
    Legible (Ddl.createTable settings model) := by
  have primary : Legible (offAzure settings " ON [PRIMARY]") :=
    legible_offAzure (legible_text (by decide)) settings
  have definitions : Legible (Sql.separated ",\n    " (Ddl.definitions settings model)) :=
    legible_separated (by decide) (legible_definitions settings model)
  have indexes : Legible (model.allIndexes.flatMap (indexStatement settings model)) :=
    legible_flatMap (legible_indexStatement settings model) fun _ => detached_text (by decide)
  rw [createTable_eq, ← List.append_cons]
  refine .settled (by decide) ?_
  refine (legible_tableExists _).followed (by decide) ?_
  refine (legible_table _).followed (by decide) ?_
  refine definitions.followed (by decide) ?_
  exact primary.followed (by decide) indexes

theorem walks_createTable (settings : Settings) (model : Model) :
    Place.outside.Walks (Ddl.createTable settings model)
      ({ keyword := "TABLE", names := Ddl.columnNames settings model } ::
        model.allIndexes.map fun index => { keyword := "INDEX", names := index.fields })
      .outside := by
  have names :
      ([model.key] :: model.columns.map (fun field : Field => [field.name]) ++ [[]]).flatten =
        Ddl.columnNames settings model := by
    rw [Ddl.columnNames_eq]
    simp [← List.flatMap_def, ← List.map_eq_flatMap]
  have table : (Place.leading "TABLE" []).Walks
      (Sql.separated ",\n    " (Ddl.definitions settings model) ++ [.text "\n)"])
      [{ keyword := "TABLE", names := Ddl.columnNames settings model }] .outside := by
    rw [← names, ← List.nil_append (List.flatten _)]
    exact walks_list (fun _ => rfl) (leads_definitions settings model) []
  rw [createTable_eq]
  refine .words rfl ((walks_tableExists _).on (.words rfl ((walks_table _ _).on (.words rfl ?_))))
  refine table.append ((walks_offAzure (walks_text rfl) settings).on (.words rfl ?_))
  exact walks_flatMap (walks_indexStatement settings model) model.allIndexes

/-- Creating a table lists the columns that the table declares, and then those that
its indexes cover. -/
theorem listings_createTable (settings : Settings) (model : Model) :
    Script.listings ((Ddl.createTable settings model).render .sqlServer) =
      { keyword := "TABLE", names := Ddl.columnNames settings model } ::
        model.allIndexes.map fun index => { keyword := "INDEX", names := index.fields } := by
  rw [Script.listings, Sql.tokens_render (legible_createTable settings model)]
  exact congrArg Prod.fst (walks_createTable settings model)

theorem listings_createIndex (settings : Settings) (model : Model) (index : Index) :
    Script.listings ((Ddl.createIndex settings model index).render .sqlServer) =
      [{ keyword := "INDEX", names := index.fields }] := by
  rw [Script.listings, Sql.tokens_render (legible_createIndex settings model index)]
  exact congrArg Prod.fst (walks_createIndex settings model index)

end SqlMapper.Schema
