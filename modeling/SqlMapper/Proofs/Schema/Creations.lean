import SqlMapper.Proofs.Schema.TableScript

namespace SqlMapper

namespace Script

/-! What a script creates.

Behind the word `CREATE` stands what is created, and behind that a list in parentheses.
Items end at commas, but not at those within parentheses of their own.
-/

structure Creation where
  heading : List Token
  items : List (List Token)
deriving DecidableEq, Repr

/-- Where a reader of creations is, with what it has read of one so far. -/
inductive Spot where
  | outside
  | announced (words : List Token)
  | item (heading : List Token) (items : List (List Token)) (read : List Token) (depth : Nat)
deriving DecidableEq, Repr

/-- How deep a token leaves a reader in parentheses.  None if it ends the item. -/
def nesting : Nat → Token → Option Nat
  | depth, .mark '(' => some (depth + 1)
  | 0, .mark ')' => none
  | depth + 1, .mark ')' => some depth
  | 0, .mark ',' => none
  | depth, _ => some depth

/-- Tokens that belong to one item. -/
def Contained (tokens : List Token) : Prop :=
  tokens.foldlM nesting 0 = some 0

instance (tokens : List Token) : Decidable (Contained tokens) :=
  inferInstanceAs (Decidable (_ = _))

theorem Contained.append {first second : List Token} (contained : Contained first)
    (later : Contained second) : Contained (first ++ second) := by
  rw [Contained, List.foldlM_append, contained]
  exact later

namespace Spot

def stepItem (heading : List Token) (items : List (List Token)) (read : List Token) (depth : Nat)
    (token : Token) : List Creation × Spot :=
  match nesting depth token with
  | some inside => ([], .item heading items (read ++ [token]) inside)
  | none =>
    if token = .mark ',' then ([], .item heading (items ++ [read]) [] 0)
    else ([{ heading, items := items ++ [read] }], .outside)

/-- What a token completes, and where the reader is behind it. -/
def step : Spot → Token → List Creation × Spot
  | .outside, token => ([], if token = .word "CREATE" then .announced [] else .outside)
  | .announced words, token =>
    ([], if token = .mark '(' then .item words [] [] 0 else .announced (words ++ [token]))
  | .item heading items read depth, token => stepItem heading items read depth token

def run : Spot → List Token → List Creation × Spot
  | spot, [] => ([], spot)
  | spot, token :: rest =>
    let (found, next) := spot.step token
    let (others, last) := run next rest
    (found ++ others, last)

theorem run_append (spot : Spot) (first second : List Token) :
    spot.run (first ++ second) =
      ((spot.run first).1 ++ ((spot.run first).2.run second).1,
        ((spot.run first).2.run second).2) := by
  induction first generalizing spot with
  | nil => simp [run]
  | cons token first ih => simp [run, ih]

/-- Goes on behind tokens that lead from one spot to another. -/
theorem run_on {spot next last : Spot} {first second : List Token} {found more : List Creation}
    (read : spot.run first = (found, next)) (later : next.run second = (more, last)) :
    spot.run (first ++ second) = (found ++ more, last) := by
  rw [run_append, read, later]

theorem run_outside {tokens : List Token} (silent : .word "CREATE" ∉ tokens) :
    outside.run tokens = ([], .outside) := by
  induction tokens with
  | nil => rfl
  | cons token rest ih =>
      rw [List.mem_cons, not_or] at silent
      simp [run, step, Ne.symm silent.1, ih silent.2]

theorem run_announced {tokens : List Token} (words : List Token) (unopened : .mark '(' ∉ tokens) :
    run (.announced words) tokens = ([], .announced (words ++ tokens)) := by
  induction tokens generalizing words with
  | nil => simp [run]
  | cons token rest ih =>
      rw [List.mem_cons, not_or] at unopened
      simp [run, step, Ne.symm unopened.1, ih _ unopened.2]

theorem run_item {tokens : List Token} {depth last : Nat}
    (nested : tokens.foldlM nesting depth = some last) (heading : List Token)
    (items : List (List Token)) (read : List Token) :
    (item heading items read depth).run tokens =
      ([], .item heading items (read ++ tokens) last) := by
  induction tokens generalizing depth read with
  | nil =>
      cases nested
      rw [List.append_nil]
      rfl
  | cons token rest ih =>
      rw [List.foldlM_cons] at nested
      cases here : nesting depth token with
      | none =>
          rw [here] at nested
          cases nested
      | some inside =>
          rw [here] at nested
          simp [run, step, stepItem, here, ih nested]

end Spot

theorem run_items {items : List (List Token)} (present : items ≠ [])
    (contained : ∀ item ∈ items, Contained item) (heading : List Token)
    (done : List (List Token)) :
    (Spot.item heading done [] 0).run (List.intercalate [.mark ','] items ++ [.mark ')']) =
      ([{ heading, items := done ++ items }], .outside) := by
  induction items generalizing done with
  | nil => exact absurd rfl present
  | cons item rest ih =>
      obtain ⟨here, later⟩ := List.forall_mem_cons.mp contained
      cases rest with
      | nil =>
          rw [List.intercalate_singleton]
          exact Spot.run_on (Spot.run_item here heading done []) rfl
      | cons next rest =>
          have ended : (Spot.item heading done item 0).run [.mark ','] =
              ([], .item heading (done ++ [item]) [] 0) := rfl
          rw [List.intercalate_cons_cons, List.append_assoc, List.append_assoc,
            List.append_cons done]
          exact Spot.run_on (Spot.run_item here heading done [])
            (Spot.run_on ended (ih (List.cons_ne_nil next rest) later (done ++ [item])))

theorem tokens_of_read {chars : List Char} {found : List Token}
    (read : Reading.tokens .between chars = found) : tokens (String.ofList chars) = found := by
  rw [tokens, String.toList_ofList, read]

/-- What is created by a sequence of tokens. -/
def creationsOf (tokens : List Token) : List Creation :=
  (Spot.run .outside tokens).1

def creations (text : String) : List Creation :=
  creationsOf (tokens text)

theorem silent_of_read {chars : List Char}
    (silent : .word "CREATE" ∉ Reading.tokens .between chars) :
    .word "CREATE" ∉ tokens (String.ofList chars) := by
  rwa [tokens_of_read rfl]

theorem creationsOf_silent {preamble : List Token} (silent : .word "CREATE" ∉ preamble)
    (rest : List Token) : creationsOf (preamble ++ rest) = creationsOf rest := by
  exact congrArg Prod.fst (Spot.run_on (Spot.run_outside silent) rfl)

theorem creationsOf_creation {heading : List Token} {items : List (List Token)}
    (unopened : .mark '(' ∉ heading) (present : items ≠ [])
    (contained : ∀ item ∈ items, Contained item) (rest : List Token) :
    creationsOf (.word "CREATE" :: (heading ++ .mark '(' ::
        (List.intercalate [.mark ','] items ++ .mark ')' :: rest))) =
      { heading, items } :: creationsOf rest := by
  have created : Spot.run .outside [.word "CREATE"] = ([], .announced []) := rfl
  have announced := Spot.run_announced [] unopened
  have opened : Spot.run (.announced heading) [.mark '('] = ([], .item heading [] [] 0) := rfl
  have listed := run_items present contained heading []
  rw [List.append_cons (List.intercalate _ items)]
  exact congrArg Prod.fst
    (Spot.run_on created (Spot.run_on announced (Spot.run_on opened (Spot.run_on listed rfl))))

/-- Of several scripts with one creation each, all creations are found. -/
theorem creationsOf_flatMap {α : Type} {write : α → List Token} {creation : α → Creation}
    {items : List α}
    (each : ∀ item ∈ items, ∀ rest, creationsOf (write item ++ rest) =
      creation item :: creationsOf rest) :
    creationsOf (items.flatMap write) = items.map creation := by
  induction items with
  | nil => rfl
  | cons item items ih =>
      obtain ⟨here, later⟩ := List.forall_mem_cons.mp each
      rw [List.flatMap_cons, here, ih later, List.map_cons]

end Script

open Script (Contained Reading Token silent_of_read tokens_of_read)

theorem Piece.tokens_text (content : String) :
    (Piece.text content).tokens = Script.tokens content := rfl

theorem Sql.tokens_separated (separator : String) (parts : List Sql) :
    (Sql.separated separator parts).tokens =
      List.intercalate (Script.tokens separator) (parts.map Sql.tokens) := by
  unfold Sql.separated
  induction parts with
  | nil => rfl
  | cons part others ih =>
      cases others with
      | nil => simp
      | cons next others =>
          rw [List.intercalate_cons_cons, Sql.tokens_append, Sql.tokens_append, ih]
          simp [List.intercalate_cons_cons, Piece.tokens_text]

namespace Schema

/-! The items of a table. -/

variable {settings : Settings} {model : Model} {index : Index}

def typeTokens : ColumnType → List Token
  | .varchar length =>
    [.quoted .name "varchar", .mark '(', .word (toString length.toNat), .mark ')']
  | .text => [.quoted .name "text"]
  | .int => [.quoted .name "int"]
  | .datetime => [.quoted .name "datetime"]
  | .bit => [.quoted .name "bit"]
  | .float => [.quoted .name "float"]

def nullTokens (nullable : Bool) : List Token :=
  if nullable then [.word "NULL"] else [.word "NOT", .word "NULL"]

def columnItem (field : Field) : List Token :=
  .quoted .name field.name :: (typeTokens (.ofField field) ++ nullTokens field.nullable)

def keyItem (model : Model) : List Token :=
  [.quoted .name model.key, .quoted .name "int", .word "IDENTITY", .mark '(', .word "1", .mark ',',
    .word "1", .mark ')', .word "NOT", .word "NULL"]

def constraintItem (settings : Settings) (model : Model) : List Token :=
  [.word "PRIMARY", .word "KEY", .word "CLUSTERED", .mark '(', .quoted .name model.key,
    .word "ASC", .mark ')'] ++ (offAzure settings keyOptions).tokens

theorem tokens_columnType (type : ColumnType) (nullable : Bool) :
    Script.tokens (" " ++ (type.render ++ if nullable then " NULL" else " NOT NULL")) =
      typeTokens type ++ nullTokens nullable := by
  cases type with
  | varchar length =>
      rw [Script.tokens, toList_varchar, Reading.tokens, scan_varchar]
      cases nullable <;> rfl
  | text | int | datetime | bit | float =>
      cases nullable <;>
        simp only [ColumnType.render, String.reduceAppend, if_true, if_false,
          Bool.false_eq_true] <;>
        exact tokens_of_read rfl

theorem tokens_column (field : Field) : (Ddl.column field).tokens = columnItem field := by
  have settings := tokens_columnType (.ofField field) field.nullable
  simp [Ddl.column, columnItem, Piece.tokens_text, columnSettings, settings]

theorem contained_columnItem (field : Field) : Contained (columnItem field) := by
  unfold columnItem
  cases ColumnType.ofField field <;> cases field.nullable <;> rfl

theorem tokens_keyConstraint (settings : Settings) (model : Model) :
    (Ddl.keyConstraint settings model).tokens = constraintItem settings model := by
  have opening : Script.tokens "PRIMARY KEY CLUSTERED\n(\n    " =
      [.word "PRIMARY", .word "KEY", .word "CLUSTERED", .mark '('] := tokens_of_read rfl
  have closing : Script.tokens " ASC\n)" = [.word "ASC", .mark ')'] := tokens_of_read rfl
  simp [Ddl.keyConstraint, constraintItem, Piece.tokens_text, opening, closing]

theorem contained_constraintItem (settings : Settings) (model : Model) :
    Contained (constraintItem settings model) := by
  refine Contained.append rfl ?_
  unfold offAzure
  cases settings.azure with
  | true => rfl
  | false =>
      have options : Contained (Script.tokens keyOptions) := by
        unfold keyOptions
        rw [← String.ofList_append, Script.tokens, String.toList_ofList]
        decide +kernel
      simpa [Piece.tokens_text] using options

/-! What the statement for a table creates. -/

def tableTokens (table : Table) : List Token :=
  [.quoted .name table.schema, .mark '.', .quoted .name table.name]

def tableCreation (settings : Settings) (model : Model) : Script.Creation where
  heading := .word "TABLE" :: tableTokens (Ddl.table settings model)
  items := keyItem model :: model.columns.map columnItem ++ [constraintItem settings model]

def coveredItem (column : IndexColumn) : List Token :=
  [.quoted .name column.field, .word column.direction.keyword]

def indexCreation (settings : Settings) (model : Model) (index : Index) : Script.Creation where
  heading := (if index.unique then [.word "UNIQUE"] else []) ++
    [.word index.kind.keyword, .word "INDEX", .quoted .name index.resolvedName, .word "ON"] ++
      tableTokens (Ddl.table settings model)
  items := index.columns.map coveredItem

theorem tokens_table (table : Table) : table.sql.tokens = tableTokens table := by
  have point : Script.tokens "." = [.mark '.'] := tokens_of_read rfl
  simp [Table.sql, tableTokens, Piece.tokens_text, point]

theorem tokens_indexWords (index : Index) :
    (indexWords index).tokens = (if index.unique then [Token.word "UNIQUE"] else []) ++
      [Token.word index.kind.keyword, Token.word "INDEX"] := by
  have opening : Script.tokens (if index.unique then "UNIQUE " else "") =
      if index.unique then [.word "UNIQUE"] else [] := by
    cases index.unique <;> exact tokens_of_read rfl
  have kind : Script.tokens (index.kind.keyword ++ " INDEX ") =
      [.word index.kind.keyword, .word "INDEX"] := by
    cases index.kind <;> simp only [IndexKind.keyword, String.reduceAppend] <;>
      exact tokens_of_read rfl
  simp [indexWords, Piece.tokens_text, opening, kind]

theorem tokens_indexItems (index : Index) :
    (Sql.separated ",\n" (index.columns.map indexItem)).tokens =
      List.intercalate [.mark ','] (index.columns.map coveredItem) := by
  have separator : Script.tokens ",\n" = [.mark ','] := tokens_of_read rfl
  have item : Sql.tokens ∘ indexItem = coveredItem := by
    funext ⟨field, direction⟩
    have margin : Script.tokens "    " = [] := tokens_of_read rfl
    have word : Script.tokens (" " ++ direction.keyword) = [.word direction.keyword] := by
      cases direction <;> simp only [Direction.keyword, String.reduceAppend] <;>
        exact tokens_of_read rfl
    simp [indexItem, coveredItem, Piece.tokens_text, margin, word]
  rw [Sql.tokens_separated, separator, List.map_map, item]

theorem contained_coveredItem (column : IndexColumn) : Contained (coveredItem column) := by
  unfold coveredItem
  rfl

theorem silent_offAzure {words : String} (silent : .word "CREATE" ∉ Script.tokens words)
    (settings : Settings) : .word "CREATE" ∉ (offAzure settings words).tokens := by
  unfold offAzure
  split
  · exact List.not_mem_nil
  · simpa [Piece.tokens_text] using silent

/-- The check for a table, as it is read. -/
def tableCheck (table : Table) : List Token :=
  [.word "EXISTS", .mark '(', .word "SELECT", .mark '*', .word "FROM", .word "sys", .mark '.',
    .word "objects", .word "WHERE", .word "object_id", .mark '=', .word "OBJECT_ID", .mark '(',
    .word "N", .quoted .literal (table.sql.render .sqlServer), .mark ')', .word "AND",
    .word "type", .word "in", .mark '(', .word "N", .quoted .literal "U", .mark ')', .mark ')']

/-- The check for an index of a table, with the words in front of it. -/
def indexCheck (table : Table) (index : Index) : List Token :=
  [.word "IF", .word "NOT", .word "EXISTS", .mark '(', .word "SELECT", .mark '*', .word "FROM",
    .word "sys", .mark '.', .word "indexes", .word "WHERE", .word "name", .mark '=', .word "N",
    .quoted .literal index.resolvedName, .word "AND", .word "object_id", .mark '=',
    .word "OBJECT_ID", .mark '(', .word "N", .quoted .literal (table.sql.render .sqlServer),
    .mark ')', .mark ')']

theorem tokens_tableExists (table : Table) :
    (Ddl.tableExists table).tokens = tableCheck table := by
  have opening : Script.tokens
      "EXISTS (SELECT * FROM sys.objects WHERE object_id = OBJECT_ID(" = [
      .word "EXISTS", .mark '(', .word "SELECT", .mark '*', .word "FROM", .word "sys", .mark '.',
      .word "objects", .word "WHERE", .word "object_id", .mark '=', .word "OBJECT_ID",
      .mark '('] := tokens_of_read (by decide +kernel)
  have kind : Script.tokens ") AND type in (" =
      [.mark ')', .word "AND", .word "type", .word "in", .mark '('] := tokens_of_read rfl
  have closing : Script.tokens "))" = [.mark ')', .mark ')'] := tokens_of_read rfl
  simp only [Ddl.tableExists, Ddl.tableLiteral, tableCheck, Sql.tokens_cons, Sql.tokens_nil,
    Piece.tokens_literal, Piece.tokens_text, opening, kind, closing, List.cons_append,
    List.nil_append]

theorem tokens_createIndex (settings : Settings) (model : Model) (index : Index) :
    (Ddl.createIndex settings model index).tokens =
      indexCheck (Ddl.table settings model) index ++
      Token.word "CREATE" :: ((indexCreation settings model index).heading ++ Token.mark '(' ::
        (List.intercalate [.mark ','] (indexCreation settings model index).items ++
          Token.mark ')' :: (offAzure settings indexOptions).tokens)) := by
  have opening : Script.tokens "IF NOT EXISTS (SELECT * FROM sys.indexes WHERE name = " = [
      .word "IF", .word "NOT", .word "EXISTS", .mark '(', .word "SELECT", .mark '*',
      .word "FROM", .word "sys", .mark '.', .word "indexes", .word "WHERE", .word "name",
      .mark '='] := tokens_of_read (by decide +kernel)
  have object : Script.tokens " AND object_id = OBJECT_ID(" =
      [.word "AND", .word "object_id", .mark '=', .word "OBJECT_ID", .mark '('] :=
    tokens_of_read rfl
  have guarded : Script.tokens "))\nCREATE " = [.mark ')', .mark ')', .word "CREATE"] :=
    tokens_of_read rfl
  have on : Script.tokens " ON " = [.word "ON"] := tokens_of_read rfl
  have opened : Script.tokens "\n(\n" = [.mark '('] := tokens_of_read rfl
  have closed : Script.tokens "\n)" = [.mark ')'] := tokens_of_read rfl
  rw [createIndex_eq]
  simp only [Sql.tokens_cons, Sql.tokens_append, Sql.tokens_nil, Piece.tokens_text,
    Piece.tokens_name, Piece.tokens_literal, Ddl.tableLiteral, tokens_indexWords, tokens_table,
    tokens_indexItems, opening, object, guarded, on, opened, closed, indexCheck, indexCreation]
  simp

theorem tokens_indexStatement (settings : Settings) (model : Model) (index : Index) :
    (indexStatement settings model index).tokens =
      (Ddl.createIndex settings model index).tokens ++ [Token.mark ';'] := by
  have front : Script.tokens "\n" = [] := tokens_of_read rfl
  have ended : Script.tokens ";" = [.mark ';'] := tokens_of_read rfl
  simp only [indexStatement, Sql.tokens_cons, Sql.tokens_append, Sql.tokens_nil,
    Piece.tokens_text, front, ended, List.nil_append, List.append_nil]

/-- The statement for an index creates the index and nothing else. -/
theorem creationsOf_indexStatement (settings : Settings) (model : Model)
    (nonempty : index.columns ≠ []) (rest : List Token) :
    Script.creationsOf ((indexStatement settings model index).tokens ++ rest) =
      indexCreation settings model index :: Script.creationsOf rest := by
  have options : .word "CREATE" ∉ (offAzure settings indexOptions).tokens ++ [.mark ';'] := by
    have silent : .word "CREATE" ∉ Script.tokens indexOptions := by
      unfold indexOptions
      rw [← String.ofList_append, ← String.ofList_append]
      exact silent_of_read (by decide +kernel)
    simpa using silent_offAzure silent settings
  have unopened : .mark '(' ∉ (indexCreation settings model index).heading := by
    cases unique : index.unique <;> simp [indexCreation, tableTokens, unique]
  have contained : ∀ item ∈ (indexCreation settings model index).items, Contained item := by
    intro item member
    obtain ⟨column, _, same⟩ := List.mem_map.mp member
    exact same ▸ contained_coveredItem column
  have created := Script.creationsOf_creation unopened (mt List.map_eq_nil_iff.mp nonempty)
    contained ((offAzure settings indexOptions).tokens ++ [.mark ';'] ++ rest)
  rw [tokens_indexStatement, tokens_createIndex, List.append_assoc, List.append_assoc,
    Script.creationsOf_silent]
  · rw [Script.creationsOf_silent options] at created
    simpa [indexCreation] using created
  · simp [indexCheck]

theorem tokens_definitions (settings : Settings) (model : Model) :
    (Sql.separated ",\n    " (Ddl.definitions settings model)).tokens =
      List.intercalate [.mark ','] (tableCreation settings model).items := by
  have separator : Script.tokens ",\n    " = [.mark ','] := tokens_of_read rfl
  have key : Sql.tokens [.name model.key, .text " [int] IDENTITY(1,1) NOT NULL"] =
      keyItem model := by
    have type : Script.tokens " [int] IDENTITY(1,1) NOT NULL" = (keyItem model).tail :=
      tokens_of_read rfl
    simp [Piece.tokens_text, type, keyItem]
  have columns : Sql.tokens ∘ Ddl.column = columnItem := by
    funext field
    rw [Function.comp, tokens_column]
  rw [Sql.tokens_separated, separator, Ddl.definitions, tableCreation]
  simp [key, columns, tokens_keyConstraint]

theorem contained_definitions (settings : Settings) (model : Model) :
    ∀ item ∈ (tableCreation settings model).items, Contained item := by
  intro item member
  rcases List.mem_append.mp member with inFront | last
  · rcases List.mem_cons.mp inFront with key | column
    · rw [key]
      unfold keyItem
      rfl
    · obtain ⟨field, _, same⟩ := List.mem_map.mp column
      exact same ▸ contained_columnItem field
  · rw [List.mem_singleton.mp last]
    exact contained_constraintItem settings model

theorem tokens_createTable (settings : Settings) (model : Model) :
    (Ddl.createTable settings model).tokens =
      (Script.tokens "SET ANSI_NULLS ON;\nSET QUOTED_IDENTIFIER ON;\nSET ANSI_PADDING ON;\nIF NOT " ++
        (Ddl.tableExists (Ddl.table settings model)).tokens ++ [Token.word "BEGIN"]) ++
      Token.word "CREATE" :: ((tableCreation settings model).heading ++ Token.mark '(' ::
        (List.intercalate [.mark ','] (tableCreation settings model).items ++ Token.mark ')' ::
          ((offAzure settings " ON [PRIMARY]").tokens ++ [Token.word "END", Token.mark ';'] ++
            model.allIndexes.flatMap fun index =>
              (indexStatement settings model index).tokens))) := by
  have created : Script.tokens "\nBEGIN\nCREATE TABLE " =
      [.word "BEGIN", .word "CREATE", .word "TABLE"] := tokens_of_read rfl
  have opened : Script.tokens " (\n    " = [.mark '('] := tokens_of_read rfl
  have closed : Script.tokens "\n)" = [.mark ')'] := tokens_of_read rfl
  have ended : Script.tokens "\nEND;" = [.word "END", .mark ';'] := tokens_of_read rfl
  have indexes : Sql.tokens (model.allIndexes.flatMap (indexStatement settings model)) =
      model.allIndexes.flatMap fun index => (indexStatement settings model index).tokens :=
    List.flatMap_assoc
  rw [createTable_eq]
  simp only [Sql.tokens_cons, Sql.tokens_append, Sql.tokens_nil, Piece.tokens_text, tokens_table,
    tokens_definitions, created, opened, closed, ended, indexes]
  simp [tableCreation]

/-- The statement that creates a table creates that table, and then its indexes. -/
theorem creations_createTable (settings : Settings)
    (nonempty : ∀ index ∈ model.allIndexes, index.columns ≠ []) :
    Script.creations ((Ddl.createTable settings model).render .sqlServer) =
      tableCreation settings model :: model.allIndexes.map (indexCreation settings model) := by
  have indexes := Script.creationsOf_flatMap fun index (member : index ∈ model.allIndexes) rest =>
    creationsOf_indexStatement settings model (nonempty index member) rest
  have silent : .word "CREATE" ∉ Script.tokens
      "SET ANSI_NULLS ON;\nSET QUOTED_IDENTIFIER ON;\nSET ANSI_PADDING ON;\nIF NOT " ++
        (Ddl.tableExists (Ddl.table settings model)).tokens ++ [.word "BEGIN"] := by
    have opening : .word "CREATE" ∉ Script.tokens
        "SET ANSI_NULLS ON;\nSET QUOTED_IDENTIFIER ON;\nSET ANSI_PADDING ON;\nIF NOT " :=
      silent_of_read (by decide)
    simp [opening, tokens_tableExists, tableCheck]
  have between : .word "CREATE" ∉
      (offAzure settings " ON [PRIMARY]").tokens ++ [.word "END", .mark ';'] := by
    have silent : .word "CREATE" ∉ Script.tokens " ON [PRIMARY]" :=
      silent_of_read (by decide)
    simpa using silent_offAzure silent settings
  have unopened : .mark '(' ∉ (tableCreation settings model).heading := by
    simp [tableCreation, tableTokens]
  have present : (tableCreation settings model).items ≠ [] := List.cons_ne_nil _ _
  rw [Script.creations, Sql.tokens_render (legible_createTable settings model),
    tokens_createTable, Script.creationsOf_silent silent,
    Script.creationsOf_creation unopened present (contained_definitions settings model),
    Script.creationsOf_silent between, indexes]

end Schema

end SqlMapper
