import SqlMapper.Proofs.Binding.Numbering
import SqlMapper.Proofs.Statement.References

namespace SqlMapper

/-! The wording of statements.

Every clause that a statement is put together from is readable, and the names it
mentions are those of its operands.  Only the greatest value of a column takes
words from outside; in a plain filter these are as harmless as the rest.
-/

open Binding (outcome)
open Sql (Readable Plain Ends)

variable {column : String} {conditions : List Condition}

mutual

def Expr.Plain : Expr → Prop
  | .greatest aggregated source none => Sql.Plain aggregated ∧ Sql.Plain source
  | .greatest aggregated source (some filter) =>
    Sql.Plain aggregated ∧ Sql.Plain source ∧ Filter.Plain filter
  | _ => True

/-- A filter that takes no mark of a reference or of a quoted name into its text. -/
def Filter.Plain : List (String × Expr) → Prop
  | [] => True
  | (_, expr) :: rest => expr.Plain ∧ Filter.Plain rest

end

theorem Operand.readable_sql (operand : Operand) : Readable operand.sql := by
  cases operand with
  | null => exact .words rfl trivial
  | bit value => cases value <;> exact .words rfl trivial
  | parameter name => exact ⟨by simp [Sql.Parted], trivial⟩

theorem Operand.readable_list (operands : List Operand) :
    Readable (Sql.separated "," (operands.map Operand.sql)) :=
  Sql.readable_separated_map rfl readable_sql

namespace Condition

theorem readable_compares (column : String) (comparison : Comparison) (operand : Operand) :
    Readable (sql (.compares column comparison operand)) := by
  have token : Plain (" " ++ comparison.token ++ " (") := by cases comparison <;> rfl
  simp only [sql, List.cons_append, List.nil_append]
  exact .quoted (.words token (operand.readable_sql.followed rfl trivial))

theorem readable_oneOf (column : String) (items : List Operand) :
    Readable (sql (.oneOf column items)) := by
  cases items with
  | nil => exact .words rfl trivial
  | cons first others =>
      simp only [sql, List.cons_append, List.nil_append]
      exact .quoted (.words rfl ((Operand.readable_list _).followed rfl trivial))

theorem readable_noneOf (column : String) (items : List Operand) :
    Readable (sql (.noneOf column items)) := by
  cases items with
  | nil => exact .words rfl trivial
  | cons first others =>
      simp only [sql, List.cons_append, List.nil_append]
      exact .quoted (.words rfl ((Operand.readable_list _).followed rfl trivial))

theorem readable_body (readable : ∀ part ∈ sqlAll conditions, Readable part) :
    Readable (body conditions) :=
  Sql.readable_separated rfl readable

theorem readable_greatest {aggregated source : String} (plain : Plain aggregated)
    (plainSource : Plain source) (readable : Readable (body conditions)) :
    Readable (sql (.greatest column aggregated source conditions)) := by
  have select : Plain " = (SELECT MAX(" := rfl
  have origin : Plain ") FROM " := rfl
  have front := ((select.append plain).append origin).append plainSource
  cases conditions with
  | nil => exact .quoted (.words (front.append rfl) trivial)
  | cons first others =>
      simp only [sql, List.cons_append, List.nil_append]
      exact .quoted (.words (front.append rfl) (readable.followed rfl trivial))

mutual

theorem readable_compile (model : Model) (column : String) : ∀ {expr : Expr}, expr.Plain →
    ∀ {before condition after},
      outcome (compile model column expr) before = (.ok condition, after) → Readable condition.sql
  | .eq value, _, _, _, _, done => by
      obtain ⟨operand, _, _, done⟩ := Binding.steps_of_bind done
      cases done
      split
      · exact .quoted (.words rfl trivial)
      · exact .quoted (.words rfl (operand.readable_sql.followed rfl trivial))
  | .compare comparison value, _, _, _, _, done => by
      obtain ⟨operand, _, _, done⟩ := Binding.steps_of_bind done
      cases done
      split
      · exact .quoted (.words rfl trivial)
      · exact readable_compares column comparison operand
  | .between low high, _, _, _, _, done => by
      obtain ⟨low, _, _, done⟩ := Binding.steps_of_bind done
      obtain ⟨high, _, _, done⟩ := Binding.steps_of_bind done
      cases done
      simp only [sql, List.cons_append, List.nil_append, List.append_assoc]
      exact .quoted (.words rfl (low.readable_sql.followed rfl high.readable_sql))
  | .oneOf values, _, _, _, _, done => by
      obtain ⟨items, _, _, done⟩ := Binding.steps_of_bind done
      cases done
      exact readable_oneOf column items
  | .noneOf values, _, _, _, _, done => by
      obtain ⟨items, _, _, done⟩ := Binding.steps_of_bind done
      cases done
      exact readable_noneOf column items
  | .greatest aggregated source none, plain, _, _, _, done => by
      cases done
      exact readable_greatest plain.1 plain.2 trivial
  | .greatest aggregated source (some filter), plain, _, _, _, done => by
      obtain ⟨nested, _, compiled, done⟩ := Binding.steps_of_bind done
      cases done
      exact readable_greatest plain.1 plain.2.1
        (readable_body (readable_compileAll model plain.2.2 compiled))

theorem readable_compileAll (model : Model) : ∀ {filter : List (String × Expr)},
    Filter.Plain filter → ∀ {before conditions after},
      outcome (compileAll model filter) before = (.ok conditions, after) →
        ∀ part ∈ sqlAll conditions, Readable part
  | [], _, _, _, _, done => by
      cases done
      exact fun _ member => absurd member List.not_mem_nil
  | (column, expr) :: rest, plain, _, _, _, done => by
      obtain ⟨condition, _, compiled, done⟩ := Binding.steps_of_bind done
      obtain ⟨others, _, compiledRest, done⟩ := Binding.steps_of_bind done
      cases done
      exact List.forall_mem_cons.mpr
        ⟨readable_compile model column plain.1 compiled,
          readable_compileAll model plain.2 compiledRest⟩

end

end Condition

/-! Assignments and arrangements. -/

theorem Assignment.readable_valueSql (assignment : Assignment) : Readable assignment.valueSql :=
  .words rfl (assignment.operand.readable_sql.followed rfl trivial)

theorem Assignment.readable_sql (assignment : Assignment) : Readable assignment.sql :=
  .quoted (.words rfl assignment.readable_valueSql)

@[simp]
theorem Assignment.parameters_valueSql (assignment : Assignment) :
    assignment.valueSql.parameters = assignment.operand.sql.parameters := by
  simp [valueSql]

@[simp]
theorem Assignment.parameters_sql (assignment : Assignment) :
    assignment.sql.parameters = assignment.operand.sql.parameters := by
  simp [sql]

theorem OrderTerm.readable_sql (term : OrderTerm) : Readable term.sql := by
  obtain ⟨column, direction⟩ := term
  rcases direction with _ | _ | _
  · trivial
  · exact .quoted (.words rfl trivial)
  · exact .quoted (.words rfl trivial)

theorem OrderTerm.parameters_sql (term : OrderTerm) : term.sql.parameters = [] := by
  obtain ⟨column, direction⟩ := term
  cases direction <;> rfl

theorem Arrangement.readable_sql (arrangement : Arrangement) : Readable arrangement.sql := by
  have terms : Readable (Sql.separated "," (arrangement.terms.map OrderTerm.sql)) :=
    Sql.readable_separated_map rfl OrderTerm.readable_sql
  have offset : Ends " OFFSET " := rfl
  have fetch : Plain " FETCH NEXT " := rfl
  have skipped : Ends (" OFFSET " ++ toString arrangement.skip ++ " ROWS") :=
    Ends.append (offset.append (Sql.plain_toString _)) rfl
  have limited (limit : UInt64) : Plain (" FETCH NEXT " ++ toString limit ++ " ROWS ONLY") :=
    Plain.append (fetch.append (Sql.plain_toString _)) rfl
  simp only [sql, List.cons_append, List.nil_append, List.append_assoc]
  refine .words rfl (terms.followed skipped ?_)
  cases arrangement.limit with
  | none => trivial
  | some limit => exact .words (limited limit) trivial

theorem Arrangement.parameters_sql (arrangement : Arrangement) :
    arrangement.sql.parameters = [] := by
  obtain ⟨terms, skip, limit⟩ := arrangement
  cases limit <;> simp [sql, OrderTerm.parameters_sql, List.flatMap_map]

namespace Statement

theorem readable_table (table : Table) {rest : Sql} (later : Readable rest) :
    Readable (table.sql ++ rest) :=
  .quoted (.words rfl (.quoted later))

@[simp]
theorem parameters_table (table : Table) : table.sql.parameters = [] := rfl

theorem readable_keyTest (key : String) : Readable (keyTest key) :=
  .words rfl (.quoted (.words rfl (.reference rfl trivial)))

@[simp]
theorem parameters_keyTest (key : String) : (keyTest key).parameters = [keyParameter] := rfl

theorem readable_reportSql : Readable reportSql :=
  .words rfl (.reference rfl trivial)

@[simp]
theorem parameters_reportSql : reportSql.parameters = [keyParameter] := rfl

theorem readable_valuesSql (columns : List String) {values : List Sql}
    (readable : ∀ value ∈ values, Readable value) : Readable (valuesSql columns values) := by
  have names : Readable (Sql.separated "," (columns.map fun column => [.name column])) :=
    Sql.readable_separated_map rfl fun column => .quoted trivial
  have given : Readable (Sql.separated "," values) := Sql.readable_separated rfl readable
  simp only [valuesSql, List.cons_append, List.nil_append, List.append_assoc]
  exact .words rfl (names.followed rfl (given.followed rfl trivial))

@[simp]
theorem parameters_valuesSql (columns : List String) (values : List Sql) :
    (valuesSql columns values).parameters = values.flatMap Sql.parameters := by
  simp [valuesSql, List.flatMap_map]

theorem readable_values (assignments : List Assignment) :
    ∀ value ∈ assignments.map Assignment.valueSql, Readable value := by
  intro value member
  obtain ⟨assignment, _, same⟩ := List.mem_map.mp member
  rw [← same]
  exact assignment.readable_valueSql

theorem readable_filterSql (readable : Readable (Condition.body conditions)) :
    Readable (filterSql conditions) := by
  cases conditions with
  | nil => trivial
  | cons first others => exact .words rfl (.words rfl readable)

@[simp]
theorem parameters_filterSql (conditions : List Condition) :
    (filterSql conditions).parameters = (Condition.body conditions).parameters := by
  cases conditions <;> rfl

/-- The words that a statement takes from outside are harmless. -/
def Plain : Statement → Prop
  | .select _ conditions _ | .count _ conditions => Readable (Condition.body conditions)
  | .verbatim text => Sql.Plain text
  | _ => True

theorem readable_sql (statement : Statement) (plain : statement.Plain) :
    Readable statement.sql := by
  cases statement with
  | insert table assignments =>
      simp only [sql, List.cons_append, List.nil_append, List.append_assoc]
      refine .words rfl (readable_table table ?_)
      split
      · exact .words rfl (.words rfl trivial)
      · exact (readable_valuesSql _ (readable_values assignments)).followed rfl trivial
  | insertKeyed table key assignments =>
      have given : Readable [.text "(", .parameter keyParameter, .text ")"] :=
        .words rfl (.reference rfl trivial)
      refine .words rfl (readable_table table (readable_valuesSql _ ?_))
      exact List.forall_mem_cons.mpr ⟨given, readable_values assignments⟩
  | permitKeys table permitted =>
      refine .words rfl (readable_table table ?_)
      cases permitted <;> exact .words rfl trivial
  | reportKey => exact readable_reportSql
  | update table key assignments =>
      have reported : Readable (reportSql ++ [.text ";"]) :=
        readable_reportSql.followed rfl trivial
      have settings : Readable (Sql.separated "," (assignments.map Assignment.sql)) :=
        Sql.readable_separated_map rfl Assignment.readable_sql
      cases assignments with
      | nil => exact reported
      | cons first others =>
          simp only [sql, List.isEmpty_cons, Bool.false_eq_true, if_false, List.cons_append,
            List.nil_append, List.append_assoc]
          refine .words rfl (readable_table table (.words rfl (settings.followed rfl ?_)))
          exact (readable_keyTest key).followed rfl reported
  | select table conditions arrangement =>
      simp only [sql, List.cons_append, List.nil_append, List.append_assoc]
      refine .words rfl (readable_table table ?_)
      have filtered := readable_filterSql plain
      cases arrangement with
      | none => exact filtered.append trivial (by simp [Sql.Parted])
      | some arrangement => exact filtered.followed rfl arrangement.readable_sql
  | count table conditions => exact .words rfl (readable_table table (readable_filterSql plain))
  | countKeyed table key => exact .words rfl (readable_table table (.words rfl (readable_keyTest key)))
  | selectKeyed table key => exact .words rfl (readable_table table (.words rfl (readable_keyTest key)))
  | deleteKeyed table key => exact .words rfl (readable_table table (.words rfl (readable_keyTest key)))
  | deleteAll table => exact .words rfl (readable_table table trivial)
  | verbatim text => exact .words plain trivial

/-- The names that a statement mentions, in the order of its text.  An update
mentions the key for the row that it singles out, if it changes anything, and for
its report. -/
def mentioned : Statement → List String
  | .insert _ assignments => Assignment.mentioned assignments
  | .insertKeyed _ _ assignments => keyParameter :: Assignment.mentioned assignments
  | .update _ _ assignments =>
    Assignment.mentioned assignments ++
      if assignments.isEmpty then [keyParameter] else [keyParameter, keyParameter]
  | .select _ conditions _ | .count _ conditions => (Condition.body conditions).parameters
  | .reportKey | .countKeyed _ _ | .selectKeyed _ _ | .deleteKeyed _ _ => [keyParameter]
  | .permitKeys _ _ | .deleteAll _ | .verbatim _ => []

theorem parameters_sql (statement : Statement) :
    statement.sql.parameters = statement.mentioned := by
  cases statement with
  | insert table assignments =>
      cases assignments with
      | nil => rfl
      | cons first others => simp [sql, mentioned, Assignment.mentioned, List.flatMap_map]
  | insertKeyed table key assignments =>
      simp [sql, mentioned, Assignment.mentioned, List.flatMap_map]
  | update table key assignments =>
      cases assignments with
      | nil => rfl
      | cons first others => simp [sql, mentioned, Assignment.mentioned, List.flatMap_map]
  | select table conditions arrangement =>
      cases arrangement <;> simp [sql, mentioned, Arrangement.parameters_sql]
  | count table conditions => simp [sql, mentioned]
  | permitKeys | reportKey | countKeyed | selectKeyed | deleteKeyed | deleteAll | verbatim => rfl

end Statement

end SqlMapper
