import SqlMapper.Proofs.Statement.Symbols
import SqlMapper.Proofs.Statement.Wording

namespace SqlMapper

/-! The columns that statements mention.

A name in brackets is that of a column unless a point joins it to another name, as in
the reference to a table.  The columns in the text of a statement are those of its
parts, from left to right; they are found by reading the text, whatever the names in
brackets contain.
-/

open Sql (Symbol)

namespace Sql

/-- The columns among the names of a text, from behind a point on or not. -/
def columnsFrom (pointed : Bool) : List Symbol → List String
  | [] => []
  | .char char :: rest => columnsFrom (char == '.') rest
  | .parameter _ :: rest => columnsFrom false rest
  | .name identifier :: rest =>
    if pointed || rest.head? == some (.char '.') then columnsFrom false rest
    else identifier :: columnsFrom false rest

def columns (text : String) : List String :=
  columnsFrom false (symbols text)

/-- Text that does not join a name in front of it to another one. -/
def Apart (sql : Sql) : Prop :=
  (sql.flatMap Piece.symbols).head? ≠ some (.char '.')

/-- The columns in a part of a text, whatever follows apart from it. -/
def Mentions (sql : Sql) (columns : List String) : Prop :=
  ∀ rest : Sql, Apart rest →
    columnsFrom false ((sql ++ rest).flatMap Piece.symbols) =
      columns ++ columnsFrom false (rest.flatMap Piece.symbols)

variable {sql left right rest : Sql} {names more : List String} {phrase : String}

theorem Apart.append (first : Apart left) (second : Apart right) : Apart (left ++ right) := by
  unfold Apart at *
  rw [List.flatMap_append, List.head?_append]
  cases head : (left.flatMap Piece.symbols).head? with
  | none => simpa using second
  | some symbol => simpa [head] using first

theorem Apart.words (apart : phrase.toList.head?.any (· != '.') = true) :
    Apart (.text phrase :: rest) := by
  cases letters : phrase.toList with
  | nil => simp [letters] at apart
  | cons char others => simpa [Apart, Piece.symbols, letters] using apart

theorem ends_append {closing : String} (apart : closing.toList.getLast?.any (· != '.') = true) :
    (phrase ++ closing).toList.getLast?.any (· != '.') = true := by
  obtain ⟨front, char, same, plain⟩ := exists_last_of_any apart
  rw [String.toList_append, same, ← List.append_assoc, List.getLast?_concat]
  exact plain

/-- Only the last character in front of a name says whether a point joins it. -/
theorem columnsFrom_chars (pointed : Bool) (front : List Char) (last : Char)
    (later : List Symbol) :
    columnsFrom pointed ((front ++ [last]).map .char ++ later) =
      columnsFrom (last == '.') later := by
  induction front generalizing pointed with
  | nil => rfl
  | cons char front ih => exact ih (char == '.')

namespace Mentions

theorem nil : Mentions [] [] := fun _ _ => rfl

theorem columns_eq (mentions : Mentions sql names) :
    columnsFrom false (sql.flatMap Piece.symbols) = names := by
  have whole := mentions [] (by simp [Apart])
  simpa [columnsFrom] using whole

/-- The columns that are read in the text of a statement are those of its parts. -/
theorem columns_render (mentions : Mentions sql names) (readable : Readable sql)
    (labels : ∀ name ∈ sql.parameters, IsLabel name) :
    columns (sql.render .sqlServer) = names := by
  rw [columns, symbols_render readable labels, mentions.columns_eq]

theorem append (first : Mentions left names) (second : Mentions right more)
    (apart : Apart right) : Mentions (left ++ right) (names ++ more) := by
  intro rest later
  rw [List.append_assoc, first _ (apart.append later), second rest later, List.append_assoc]

/-- Words that do not end in a point mention nothing. -/
theorem words (apart : phrase.toList.getLast?.any (· != '.') = true)
    (later : Mentions rest names) : Mentions (.text phrase :: rest) names := by
  intro others parted
  obtain ⟨front, char, same, plain⟩ := exists_last_of_any apart
  have solid : (char == '.') = false := by simpa using plain
  rw [List.cons_append, List.flatMap_cons, Piece.symbols, same, columnsFrom_chars, solid,
    later others parted]

theorem column (identifier : String) : Mentions [.name identifier] [identifier] := by
  intro rest apart
  simp only [Apart] at apart
  simp [Piece.symbols, columnsFrom, apart]

theorem reference (label : String) (later : Mentions rest names) :
    Mentions (.parameter label :: rest) names := by
  intro others apart
  exact later others apart

/-- A name in front of words that do not join it to another one. -/
theorem column_words (identifier : String) (apart : phrase.toList.head?.any (· != '.') = true)
    (later : Mentions (.text phrase :: rest) names) :
    Mentions (.name identifier :: .text phrase :: rest) (identifier :: names) :=
  (column identifier).append later (.words apart)

/-- Words behind a part that join it to nothing. -/
theorem followed (mentions : Mentions sql names)
    (apart : phrase.toList.head?.any (· != '.') = true)
    (later : Mentions (.text phrase :: rest) more) :
    Mentions (sql ++ .text phrase :: rest) (names ++ more) :=
  mentions.append later (.words apart)

theorem closed (mentions : Mentions sql names) : Mentions (sql ++ [Piece.text ")"]) names := by
  have apart : Apart [.text ")"] := .words rfl
  have whole := mentions.append (.words rfl .nil) apart
  rwa [List.append_nil] at whole

theorem table (table : Table) (later : Mentions rest names) :
    Mentions (table.sql ++ rest) names := by
  intro others apart
  exact later others apart

theorem separated {α : Type} {write : α → Sql} {named : α → List String} {separator : String}
    (apart : separator.toList.head?.any (· != '.') = true)
    (apartLast : separator.toList.getLast?.any (· != '.') = true) {items : List α}
    (mentions : ∀ item ∈ items, Mentions (write item) (named item)) :
    Mentions (Sql.separated separator (items.map write)) (items.flatMap named) := by
  induction items with
  | nil => exact nil
  | cons item others ih =>
      obtain ⟨here, later⟩ := List.forall_mem_cons.mp mentions
      cases others with
      | nil => simpa [Sql.separated] using here
      | cons next others =>
          have rest := here.append (words apartLast (ih later)) (.words apart)
          simpa [Sql.separated, List.intercalate_cons_cons] using rest

end Mentions

end Sql

open Sql (Mentions)

theorem Operand.mentions_sql (operand : Operand) : Mentions operand.sql [] := by
  cases operand with
  | null => exact .words rfl .nil
  | bit value => cases value <;> exact .words rfl .nil
  | parameter name => exact .reference name .nil

theorem Operand.apart_sql (operand : Operand) : Sql.Apart operand.sql := by
  cases operand with
  | null => exact .words rfl
  | bit value => cases value <;> exact .words rfl
  | parameter name => simp [sql, Sql.Apart, Piece.symbols]

theorem Operand.mentions_list (items : List Operand) :
    Mentions (Sql.separated "," (items.map Operand.sql)) [] := by
  have listed : Mentions (Sql.separated "," (items.map Operand.sql)) (items.flatMap fun _ => []) :=
    .separated rfl rfl fun item _ => item.mentions_sql
  rwa [List.flatMap_eq_nil_iff.mpr fun _ _ => rfl] at listed

namespace Condition

mutual

/-- The columns that a condition mentions.  A list without items leaves the column
out. -/
def columns : Condition → List String
  | .isNull column | .isNotNull column | .equals column _ | .compares column _ _
  | .between column _ _ => [column]
  | .oneOf column items | .noneOf column items => if items.isEmpty then [] else [column]
  | .greatest column _ _ nested => column :: columnsAll nested

def columnsAll : List Condition → List String
  | [] => []
  | condition :: rest => condition.columns ++ columnsAll rest

end

theorem sqlAll_eq_map (conditions : List Condition) : sqlAll conditions = conditions.map sql := by
  induction conditions with
  | nil => rfl
  | cons condition rest ih => rw [sqlAll, ih, List.map_cons]

theorem columnsAll_eq_flatMap (conditions : List Condition) :
    columnsAll conditions = conditions.flatMap columns := by
  induction conditions with
  | nil => rfl
  | cons condition rest ih => rw [columnsAll, ih, List.flatMap_cons]

theorem mentions_body_of_forall {conditions : List Condition}
    (mentions : ∀ condition ∈ conditions, Mentions condition.sql condition.columns) :
    Mentions (body conditions) (columnsAll conditions) := by
  rw [body, sqlAll_eq_map, columnsAll_eq_flatMap]
  exact .separated rfl rfl mentions

theorem mentions_greatest (column aggregated source : String) {nested : List Condition}
    (mentions : Mentions (body nested) (columnsAll nested)) :
    Mentions (sql (.greatest column aggregated source nested)) (column :: columnsAll nested) := by
  cases nested with
  | nil => exact .column_words column (by simp) (.words (Sql.ends_append rfl) .nil)
  | cons first others =>
      exact .column_words column (by simp) (.words (Sql.ends_append rfl) mentions.closed)

mutual

theorem mentions_sql : ∀ condition : Condition, Mentions condition.sql condition.columns
  | .isNull column => .column_words column rfl (.words rfl .nil)
  | .isNotNull column => .column_words column rfl (.words rfl .nil)
  | .equals column operand => .column_words column rfl (.words rfl operand.mentions_sql.closed)
  | .compares column comparison operand => by
      cases comparison <;>
        exact .column_words column rfl (.words rfl operand.mentions_sql.closed)
  | .between column low high =>
    .column_words column rfl (.words rfl
      ((low.mentions_sql.append (.words rfl .nil) (.words rfl)).append high.mentions_sql
        high.apart_sql))
  | .oneOf _ [] | .noneOf _ [] => .words rfl .nil
  | .oneOf column (first :: others) | .noneOf column (first :: others) =>
    .column_words column rfl (.words rfl (Operand.mentions_list (first :: others)).closed)
  | .greatest column aggregated source nested =>
    mentions_greatest column aggregated source (mentions_body_of_forall (mentions_all nested))

theorem mentions_all : ∀ conditions : List Condition,
    ∀ condition ∈ conditions, Mentions condition.sql condition.columns
  | [], _, member => absurd member List.not_mem_nil
  | first :: others, condition, member => by
      rcases List.mem_cons.mp member with same | later
      · exact same ▸ mentions_sql first
      · exact mentions_all others condition later

end

end Condition

theorem Assignment.mentions_valueSql (assignment : Assignment) :
    Mentions assignment.valueSql [] :=
  .words rfl assignment.operand.mentions_sql.closed

theorem Assignment.mentions_sql (assignment : Assignment) :
    Mentions assignment.sql [assignment.column] :=
  .column_words assignment.column rfl (.words rfl assignment.mentions_valueSql)

theorem OrderTerm.mentions_sql (term : OrderTerm) : Mentions term.sql [term.column] := by
  obtain ⟨column, direction⟩ := term
  rcases direction with _ | _ | _
  · exact .column column
  · exact .column_words column rfl (.words rfl .nil)
  · exact .column_words column rfl (.words rfl .nil)

def Arrangement.columns (arrangement : Arrangement) : List String :=
  arrangement.terms.map (·.column)

theorem Arrangement.mentions_sql (arrangement : Arrangement) :
    Mentions arrangement.sql arrangement.columns := by
  obtain ⟨terms, skip, limit⟩ := arrangement
  have ordered : Mentions (Sql.separated "," (terms.map OrderTerm.sql))
      (terms.flatMap fun term => [term.column]) :=
    .separated rfl rfl fun term _ => term.mentions_sql
  rw [← List.map_eq_flatMap] at ordered
  have skipped (rest : Sql) (later : Mentions rest []) :
      Mentions (.text (" OFFSET " ++ toString skip ++ " ROWS") :: rest) [] :=
    .words (Sql.ends_append rfl) later
  have paged (rest : Sql) (later : Mentions rest []) := ordered.followed (by simp) (skipped rest later)
  simp only [List.append_nil] at paged
  simp only [sql, List.cons_append, List.nil_append, List.append_assoc]
  cases limit with
  | none => exact .words rfl (paged _ .nil)
  | some limit => exact .words rfl (paged _ (.words (Sql.ends_append rfl) .nil))

namespace Statement

theorem mentions_keyTest (key : String) : Mentions (keyTest key) [key] :=
  .words rfl (.column_words key rfl (.words rfl (.reference _ (.words rfl .nil))))

theorem mentions_reportSql : Mentions reportSql [] :=
  .words rfl (.reference _ (.words rfl .nil))

theorem mentions_valuesSql (columns : List String) {values : List Sql}
    (silent : ∀ value ∈ values, Mentions value []) :
    Mentions (valuesSql columns values) columns := by
  have names : Mentions (Sql.separated "," (columns.map fun column => [.name column])) columns := by
    have listed : Mentions (Sql.separated "," (columns.map fun column => [.name column]))
        (columns.flatMap fun column => [column]) :=
      .separated rfl rfl fun column _ => .column column
    rwa [List.flatMap_singleton'] at listed
  have given : Mentions (Sql.separated "," values) [] := by
    have listed : Mentions (Sql.separated "," (values.map id)) (values.flatMap fun _ => []) :=
      .separated rfl rfl silent
    rwa [List.map_id, List.flatMap_eq_nil_iff.mpr fun _ _ => rfl] at listed
  have listed : Mentions (.text ")\nVALUES (" :: (Sql.separated "," values ++ [.text ")"])) [] :=
    .words rfl given.closed
  have whole := names.followed rfl listed
  rw [List.append_nil] at whole
  simp only [valuesSql, List.cons_append, List.nil_append, List.append_assoc]
  exact .words rfl whole

theorem mentions_filterSql (conditions : List Condition) :
    Mentions (filterSql conditions) (Condition.columnsAll conditions) := by
  cases conditions with
  | nil => exact .nil
  | cons first others =>
      exact .words rfl (.words rfl (Condition.mentions_body_of_forall (Condition.mentions_all _)))

/-- The columns that a statement mentions, in the order of its text. -/
def columns : Statement → List String
  | .insert _ assignments => assignments.map (·.column)
  | .insertKeyed _ key assignments => key :: assignments.map (·.column)
  | .update _ key assignments =>
    if assignments.isEmpty then [] else assignments.map (·.column) ++ [key]
  | .select _ conditions arrangement =>
    Condition.columnsAll conditions ++ (arrangement.map Arrangement.columns).getD []
  | .count _ conditions => Condition.columnsAll conditions
  | .countKeyed _ key | .selectKeyed _ key | .deleteKeyed _ key => [key]
  | .permitKeys _ _ | .reportKey | .deleteAll _ | .verbatim _ => []

theorem silent_values (assignments : List Assignment) :
    ∀ value ∈ assignments.map Assignment.valueSql, Mentions value [] := by
  intro value member
  obtain ⟨assignment, _, same⟩ := List.mem_map.mp member
  exact same ▸ assignment.mentions_valueSql

theorem mentions_sql (statement : Statement) (given : ∀ text, statement ≠ .verbatim text) :
    Mentions statement.sql statement.columns := by
  cases statement with
  | insert table assignments =>
      simp only [sql, List.cons_append, List.nil_append, List.append_assoc]
      refine .words rfl (.table table ?_)
      cases assignments with
      | nil => exact .words rfl (.words rfl .nil)
      | cons first others =>
          have values := mentions_valuesSql ((first :: others).map (·.column))
            (silent_values (first :: others))
          have reported :
              Mentions [.text ";\nSELECT CAST(SCOPE_IDENTITY() AS int) AS insertId;"] [] :=
            .words rfl .nil
          have whole := values.followed rfl reported
          rwa [List.append_nil] at whole
  | insertKeyed table key assignments =>
      refine .words rfl (.table table (mentions_valuesSql _ ?_))
      exact List.forall_mem_cons.mpr
        ⟨.words rfl (.reference _ (.words rfl .nil)), silent_values assignments⟩
  | permitKeys table permitted =>
      refine .words rfl (.table table ?_)
      cases permitted <;> exact .words rfl .nil
  | reportKey => exact mentions_reportSql
  | update table key assignments =>
      cases assignments with
      | nil => exact mentions_reportSql.append (.words rfl .nil) (.words rfl)
      | cons first others =>
          have settings : Mentions (Sql.separated "," ((first :: others).map Assignment.sql))
              ((first :: others).flatMap fun assignment => [assignment.column]) :=
            .separated rfl rfl fun assignment _ => assignment.mentions_sql
          have reported : Mentions (.text ";\n" :: (reportSql ++ [.text ";"])) [] :=
            .words rfl (mentions_reportSql.append (.words rfl .nil) (.words rfl))
          have singled : Mentions
              (.text "\n" :: (keyTest key ++ .text ";\n" :: (reportSql ++ [.text ";"]))) [key] :=
            .words rfl ((mentions_keyTest key).followed rfl reported)
          have whole := settings.followed rfl singled
          simp only [sql, List.isEmpty_cons, Bool.false_eq_true, if_false, List.cons_append,
            List.nil_append, List.append_assoc]
          refine .words rfl (.table table (.words rfl ?_))
          simpa [columns, List.map_eq_flatMap] using whole
  | select table conditions arrangement =>
      simp only [sql, List.cons_append, List.nil_append, List.append_assoc]
      refine .words rfl (.table table ?_)
      cases arrangement with
      | none => simpa [columns] using mentions_filterSql conditions
      | some arrangement =>
          exact (mentions_filterSql conditions).followed rfl (.words rfl arrangement.mentions_sql)
  | count table conditions => exact .words rfl (.table table (mentions_filterSql conditions))
  | countKeyed table key => exact .words rfl (.table table (.words rfl (mentions_keyTest key)))
  | selectKeyed table key => exact .words rfl (.table table (.words rfl (mentions_keyTest key)))
  | deleteKeyed table key => exact .words rfl (.table table (.words rfl (mentions_keyTest key)))
  | deleteAll table => exact .words rfl (.table table .nil)
  | verbatim text => exact absurd rfl (given text)

end Statement

end SqlMapper
