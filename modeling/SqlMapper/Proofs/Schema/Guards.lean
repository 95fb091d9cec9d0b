import SqlMapper.Proofs.Schema.Creations

namespace SqlMapper

/-! The checks in statements that define tables.

Such a statement depends on a check whether its table or its index exists.  The check
says in literals what it looks for, and the statement says in brackets what it is about.
Whatever the names are, a reader finds the same in both, and no quotation is left open.
-/

namespace Script

variable {chars : List Char} {tokens first second : List Token} {sql : Sql}

/-- What a check looks for, or a statement is about: a table as statements write it, or an
index of that table. -/
structure Target where
  table : String
  index : Option String := none
deriving DecidableEq, Repr

/-- A check and the statement that depends on it. -/
structure Guard where
  /-- The statement is carried out if nothing is found. -/
  negated : Bool
  tested : Target
  verb : String
  target : Target
deriving DecidableEq, Repr

/-- The content of the first literal that stands right behind some tokens. -/
def literalBehind? (front : List Token) : List Token → Option String
  | [] => none
  | token :: rest =>
    match front.isPrefixOf (token :: rest), (token :: rest).drop front.length with
    | true, .quoted .literal content :: _ => some content
    | _, _ => literalBehind? front rest

/-- The names that tokens begin with, written with the points between them. -/
def reference : List Token → String
  | .quoted .name identifier :: rest => Dialect.sqlServer.quote identifier ++ reference rest
  | .mark '.' :: rest => "." ++ reference rest
  | _ => ""

/-- What a statement is about, read from behind its verb. -/
def target? : List Token → Option Target
  | .word "TABLE" :: rest => some { table := reference rest }
  | .word "INDEX" :: .quoted .name index :: .word "ON" :: rest =>
    some { table := reference rest, index := some index }
  | .word _ :: rest => target? rest
  | _ => none

def isVerb : Token → Bool
  | .word letters => letters == "CREATE" || letters == "DROP"
  | _ => false

/-- Reads a check and its statement from behind the word `EXISTS`. -/
def guard? (negated : Bool) (tokens : List Token) : Option Guard :=
  let check := tokens.takeWhile (!isVerb ·)
  let index := literalBehind? [.word "name", .mark '=', .word "N"] check
  match literalBehind? [.word "OBJECT_ID", .mark '(', .word "N"] check,
    tokens.dropWhile (!isVerb ·) with
  | some table, .word verb :: rest =>
    (target? rest).map fun target => { negated, tested := { table, index }, verb, target }
  | _, _ => none

/-- What is read at each word `EXISTS`.  The flag says whether `NOT` stands in front. -/
def guardsBehind (negated : Bool) : List Token → List (Option Guard)
  | [] => []
  | token :: rest =>
    if token = .word "EXISTS" then guard? negated rest :: guardsBehind false rest
    else guardsBehind (token = .word "NOT") rest

/-- The checks of a text, in order.  One that cannot be read counts as none. -/
def guards (text : String) : List (Option Guard) :=
  guardsBehind false (Script.tokens text)

/-- A text that ends outside of all quotations. -/
def Closed (text : String) : Prop :=
  (Reading.scan .between text.toList).2.isClosed = true

/-- Tokens without a check turn one that follows around if they end in `NOT`. -/
theorem guardsBehind_append {front : List Token} (free : .word "EXISTS" ∉ front)
    (given : front ≠ []) (negated : Bool) (rest : List Token) :
    guardsBehind negated (front ++ rest) =
      guardsBehind (front.getLast? = some (.word "NOT")) rest := by
  induction front generalizing negated with
  | nil => exact absurd rfl given
  | cons token front ih =>
      rw [List.mem_cons, not_or] at free
      rw [List.cons_append, guardsBehind, if_neg (Ne.symm free.1)]
      cases front with
      | nil => simp
      | cons next front =>
          rw [List.getLast?_cons_cons]
          exact ih free.2 (List.cons_ne_nil _ _) _

/-- Tokens without a check, which do not turn around one that follows. -/
def Quiet (tokens : List Token) : Prop :=
  .word "EXISTS" ∉ tokens ∧ .word "NOT" ∉ tokens.getLast?

instance (tokens : List Token) : Decidable (Quiet tokens) :=
  inferInstanceAs (Decidable (_ ∧ _))

theorem guardsBehind_of_quiet {front : List Token} (quiet : Quiet front) (rest : List Token) :
    guardsBehind false (front ++ rest) = guardsBehind false rest := by
  obtain ⟨free, ended⟩ := quiet
  cases front with
  | nil => rfl
  | cons token front =>
      rw [guardsBehind_append free (List.cons_ne_nil _ _)]
      exact congrArg (guardsBehind · rest) (decide_eq_false ended)

/-- Tokens in which some checks are found, whatever follows them. -/
def Finds (tokens : List Token) (found : List (Option Guard)) : Prop :=
  ∀ rest, guardsBehind false (tokens ++ rest) = found ++ guardsBehind false rest

variable {found more : List (Option Guard)}

namespace Finds

theorem append (here : Finds first found) (later : Finds second more) :
    Finds (first ++ second) (found ++ more) := by
  intro rest
  rw [List.append_assoc, List.append_assoc, here, later]

theorem followed (here : Finds first found) (later : Finds second []) :
    Finds (first ++ second) found := by
  have both := here.append later
  rwa [List.append_nil] at both

theorem of_quiet (quiet : Quiet tokens) : Finds tokens [] :=
  fun rest => guardsBehind_of_quiet quiet rest

theorem of_read (quiet : Quiet (Reading.tokens .between chars)) :
    Finds (Script.tokens (String.ofList chars)) [] := by
  rw [tokens_of_read rfl]
  exact of_quiet quiet

theorem intercalate {items : List (List Token)} (each : ∀ item ∈ items, Finds item []) :
    Finds (List.intercalate [.mark ','] items) [] := by
  induction items with
  | nil => exact fun _ => rfl
  | cons item others ih =>
      obtain ⟨here, later⟩ := List.forall_mem_cons.mp each
      cases others with
      | nil => simpa using here
      | cons next others =>
          rw [List.intercalate_cons_cons]
          exact (here.append (of_quiet (by decide))).append (ih later)

theorem flatMap {α : Type} {write : α → List Token} {guard : α → Option Guard}
    (each : ∀ item, Finds (write item) [guard item]) (items : List α) :
    Finds (items.flatMap write) (items.map guard) := by
  induction items with
  | nil => exact fun _ => rfl
  | cons item items ih => exact (each item).append ih

theorem guards_eq (finds : Finds sql.tokens found) (legible : Sql.Legible sql) :
    guards (sql.render .sqlServer) = found := by
  have read := finds []
  rw [List.append_nil] at read
  rw [guards, Sql.tokens_render legible, read]
  exact List.append_nil found

end Finds

theorem Reading.scan_of_stopped {reading : Reading} (given : chars ≠ [])
    (stopped : ∀ char ∈ chars.head?, reading.continues char = false) :
    (reading.scan chars).2 = (scan .between chars).2 := by
  cases chars with
  | nil => exact absurd rfl given
  | cons char chars =>
      have apart := stopped char rfl
      simp only [scan, step, apart]
      rfl

theorem closed_render (legible : Sql.Legible sql) : Closed (sql.render .sqlServer) := by
  unfold Closed
  induction sql with
  | nil => rfl
  | cons piece rest ih =>
      obtain ⟨closed, stopped, later⟩ := legible
      rw [Sql.render_cons, String.toList_append, Reading.scan_append]
      change (Reading.scan piece.ending (Sql.render .sqlServer rest).toList).2.isClosed = true
      by_cases empty : (Sql.render .sqlServer rest).toList = []
      · rw [empty]
        exact closed
      · rw [Reading.scan_of_stopped empty stopped]
        exact ih later

end Script

namespace Schema

open Script (Finds Guard Target Token tokens_of_read)
open Sql (detached_text)

variable {words : String}

theorem render_table (settings : Settings) (model : Model) :
    (Ddl.table settings model).sql.render .sqlServer =
      Dialect.sqlServer.qualified settings.schema model.tableName := by
  simp [Ddl.table, Table.sql, Piece.render, Dialect.qualified, String.append_assoc]

/-- The names of a table as they are read one by one. -/
theorem written_table (schema name : String) :
    Dialect.sqlServer.quote schema ++ ("." ++ (Dialect.sqlServer.quote name ++ "")) =
      Dialect.sqlServer.qualified schema name := by
  simp [Dialect.qualified, String.append_assoc]

/-! What stands behind a check and its target. -/

theorem finds_offAzure (finds : Finds (Script.tokens words) []) (settings : Settings) :
    Finds (offAzure settings words).tokens [] := by
  unfold offAzure
  split
  · exact fun _ => rfl
  · simpa [Piece.tokens_text] using finds

theorem finds_columnItem (field : Field) : Finds (columnItem field) [] := by
  refine .of_quiet ?_
  unfold columnItem nullTokens
  cases ColumnType.ofField field with
  | varchar length =>
      -- The length is the one part that is not fixed.  It is read as a word of digits.
      have number : "EXISTS" ≠ toString length.toNat := by
        intro same
        have letter : 'E' ∈ (toString length.toNat).toList := by rw [← same]; decide
        exact absurd (Sql.isDigit_of_mem_toString letter) (by decide)
      cases field.nullable <;> simpa [Script.Quiet, typeTokens] using number
  | text | int | datetime | bit | float =>
      cases field.nullable <;> simp [Script.Quiet, typeTokens]

theorem finds_constraintItem (settings : Settings) (model : Model) :
    Finds (constraintItem settings model) [] := by
  have options : Finds (Script.tokens keyOptions) [] := by
    unfold keyOptions
    rw [← String.ofList_append]
    exact .of_read (by decide +kernel)
  exact (Finds.of_quiet (by simp [Script.Quiet])).append (finds_offAzure options settings)

theorem finds_tableItems (settings : Settings) (model : Model) :
    ∀ item ∈ (tableCreation settings model).items, Finds item [] := by
  intro item member
  rcases List.mem_append.mp member with inFront | last
  · rcases List.mem_cons.mp inFront with key | column
    · rw [key]
      exact .of_quiet (by simp [Script.Quiet, keyItem])
    · obtain ⟨field, _, same⟩ := List.mem_map.mp column
      exact same ▸ finds_columnItem field
  · rw [List.mem_singleton.mp last]
    exact finds_constraintItem settings model

theorem finds_indexItems (settings : Settings) (model : Model) (index : Index) :
    ∀ item ∈ (indexCreation settings model index).items, Finds item [] := by
  intro item member
  obtain ⟨column, _, same⟩ := List.mem_map.mp member
  rw [← same]
  refine .of_quiet ?_
  cases direction : column.direction <;>
    simp [Script.Quiet, coveredItem, direction, Direction.keyword]

/-! Checks and what they test. -/

/-- A statement that is carried out on what its check looks for. -/
def guarding (negated : Bool) (verb : String) (target : Target) : Option Guard :=
  some { negated, tested := target, verb, target }

def tableTarget (settings : Settings) (model : Model) : Target :=
  { table := Dialect.sqlServer.qualified settings.schema model.tableName }

def indexTarget (settings : Settings) (model : Model) (index : Index) : Target :=
  { tableTarget settings model with index := index.resolvedName }

theorem finds_createIndex (settings : Settings) (model : Model) (index : Index) :
    Finds (Ddl.createIndex settings model index).tokens
      [guarding true "CREATE" (indexTarget settings model index)] := by
  have options : Finds (Script.tokens indexOptions) [] := by
    unfold indexOptions
    rw [← String.ofList_append, ← String.ofList_append]
    exact .of_read (by decide +kernel)
  have ending : Finds [.mark ')'] [] := .of_quiet (by decide)
  have listed : Finds (List.intercalate [.mark ','] (indexCreation settings model index).items ++
      .mark ')' :: (offAzure settings indexOptions).tokens) [] :=
    (Finds.intercalate (finds_indexItems settings model index)).append
      (ending.append (finds_offAzure options settings))
  intro rest
  have later : Script.guardsBehind false rest = _ := (listed rest).symm
  rw [tokens_createIndex, later]
  simp only [indexCheck, indexCreation, tableTokens, indexTarget, tableTarget, render_table,
    ← written_table, List.append_assoc, List.cons_append, List.nil_append]
  cases index.unique <;> cases index.kind <;> rfl

theorem finds_indexStatement (settings : Settings) (model : Model) (index : Index) :
    Finds (indexStatement settings model index).tokens
      [guarding true "CREATE" (indexTarget settings model index)] := by
  rw [tokens_indexStatement]
  exact (finds_createIndex settings model index).followed (.of_quiet (by decide))

theorem finds_createTable (settings : Settings) (model : Model) :
    Finds (Ddl.createTable settings model).tokens
      (guarding true "CREATE" (tableTarget settings model) ::
        model.allIndexes.map fun index =>
          guarding true "CREATE" (indexTarget settings model index)) := by
  have opening : Script.tokens
      "SET ANSI_NULLS ON;\nSET QUOTED_IDENTIFIER ON;\nSET ANSI_PADDING ON;\nIF NOT " = [
        .word "SET", .word "ANSI_NULLS", .word "ON", .mark ';',
        .word "SET", .word "QUOTED_IDENTIFIER", .word "ON", .mark ';',
        .word "SET", .word "ANSI_PADDING", .word "ON", .mark ';', .word "IF", .word "NOT"] :=
    tokens_of_read (by decide +kernel)
  have placed : Finds (Script.tokens " ON [PRIMARY]") [] := .of_read (by decide)
  have ending : Finds [.word "END", .mark ';'] [] := .of_quiet (by decide)
  have closing : Finds [.mark ')'] [] := .of_quiet (by decide)
  have behind : Finds (List.intercalate [.mark ','] (tableCreation settings model).items ++
      .mark ')' :: ((offAzure settings " ON [PRIMARY]").tokens ++ [.word "END", .mark ';'] ++
        model.allIndexes.flatMap fun index => (indexStatement settings model index).tokens))
      (model.allIndexes.map fun index =>
        guarding true "CREATE" (indexTarget settings model index)) :=
    (Finds.intercalate (finds_tableItems settings model)).append
      (closing.append (((finds_offAzure placed settings).append ending).append
        (Finds.flatMap (finds_indexStatement settings model) model.allIndexes)))
  intro rest
  refine .trans ?_ (congrArg (guarding true "CREATE" (tableTarget settings model) :: ·)
    (behind rest))
  rw [tokens_createTable, opening]
  simp only [tokens_tableExists, tableCheck, tableCreation, tableTokens, tableTarget,
    render_table, ← written_table, List.append_assoc, List.cons_append, List.nil_append]
  rfl

theorem legible_dropTable (settings : Settings) (model : Model) :
    Sql.Legible (Ddl.dropTable settings model) := by
  have statement : Sql.Legible
      (.text "\nBEGIN\n    DROP TABLE " :: ((Ddl.table settings model).sql ++ [.text "\nEND;"])) :=
    .settled (by decide) ((legible_table _).followed (by decide) trivial)
  have detached : Sql.Detached
      (.text "\nBEGIN\n    DROP TABLE " :: ((Ddl.table settings model).sql ++ [.text "\nEND;"])) :=
    detached_text (by decide)
  have parts : Sql.Legible (.text "IF " :: (Ddl.tableExists (Ddl.table settings model) ++ _)) :=
    .settled (by decide) ((legible_tableExists _).append statement detached)
  simpa [Ddl.dropTable] using parts

theorem finds_dropTable (settings : Settings) (model : Model) :
    Finds (Ddl.dropTable settings model).tokens
      [guarding false "DROP" (tableTarget settings model)] := by
  intro rest
  have opening : Script.tokens "IF " = [.word "IF"] := tokens_of_read rfl
  have verb : Script.tokens "\nBEGIN\n    DROP TABLE " =
      [.word "BEGIN", .word "DROP", .word "TABLE"] := tokens_of_read rfl
  have ending : Script.tokens "\nEND;" = [.word "END", .mark ';'] := tokens_of_read rfl
  simp only [Ddl.dropTable, tableTarget, tokens_tableExists, tableCheck, render_table,
    ← written_table,
    Sql.tokens_append, Sql.tokens_cons, Sql.tokens_nil, Piece.tokens_text, tokens_table,
    tableTokens, opening, verb, ending, List.append_assoc, List.cons_append, List.nil_append]
  rfl

/-- Every check in a statement that creates or drops a table, or creates an index, looks for
the table or the index that the statement is about.  Read on its own, the table that it looks
for is the name of the schema and that of the table.  No statement ends within a quotation. -/
theorem checks_test_targets (settings : Settings) (model : Model) :
    let table := Dialect.sqlServer.qualified settings.schema model.tableName
    let create := (Ddl.createTable settings model).render .sqlServer
    let drop := (Ddl.dropTable settings model).render .sqlServer
    let createIndex := fun index => (Ddl.createIndex settings model index).render .sqlServer
    (Script.guards create = guarding true "CREATE" { table } ::
        model.allIndexes.map fun index =>
          guarding true "CREATE" { table, index := index.resolvedName }) ∧
      Script.guards drop = [guarding false "DROP" { table }] ∧
      (∀ index, Script.guards (createIndex index) =
        [guarding true "CREATE" { table, index := index.resolvedName }]) ∧
      Script.tokens table =
        [.quoted .name settings.schema, .mark '.', .quoted .name model.tableName] ∧
      Script.Closed create ∧ Script.Closed drop ∧ ∀ index, Script.Closed (createIndex index) := by
  intro table create drop createIndex
  refine ⟨?_, ?_, fun index => ?_, ?_, ?_, ?_, fun index => ?_⟩
  · exact (finds_createTable settings model).guards_eq (legible_createTable settings model)
  · exact (finds_dropTable settings model).guards_eq (legible_dropTable settings model)
  · exact (finds_createIndex settings model index).guards_eq
      (legible_createIndex settings model index)
  · have read := Sql.tokens_render (legible_table (Ddl.table settings model))
    rwa [render_table, tokens_table] at read
  · exact Script.closed_render (legible_createTable settings model)
  · exact Script.closed_render (legible_dropTable settings model)
  · exact Script.closed_render (legible_createIndex settings model index)

end Schema

end SqlMapper
