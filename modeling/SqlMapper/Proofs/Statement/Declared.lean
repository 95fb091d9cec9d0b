import SqlMapper.Proofs.Binding.Content
import SqlMapper.Proofs.Model.Settled
import SqlMapper.Proofs.Statement.Columns
import SqlMapper.Proofs.Statement.Parts
import SqlMapper.Proofs.Statement.Placeholders
import SqlMapper.Schema.Ddl

namespace SqlMapper

/-! Statements and the columns of their table.

Creating a table declares the key column and a column for each other field.  Writing
mentions these columns alone.  Conditions and orders mention the names of fields, and
the name of a key field is no column if the key is stored under a name of its own.
-/

open Binding (outcome)
open Sql (Mentions)

variable {registry : Registry} {name : String} {model declared : Model} {settings : Settings}
  {before after parameters : Parameters} {record : Record} {prepared : Prepared} {key : Value}

/-- The name that a definition begins with. -/
def Sql.leading? : Sql → Option String
  | .name identifier :: _ => some identifier
  | _ => none

/-- The columns that creating the table of a model declares. -/
def Schema.Ddl.columnNames (settings : Settings) (model : Model) : List String :=
  (definitions settings model).filterMap Sql.leading?

theorem Schema.Ddl.columnNames_eq (settings : Settings) (model : Model) :
    columnNames settings model = model.key :: model.columns.map (·.name) := by
  have columns : (model.columns.map column).filterMap Sql.leading? =
      model.columns.map (·.name) := by
    rw [List.filterMap_map]
    exact congrFun List.filterMap_eq_map' _
  simp [columnNames, definitions, columns, keyConstraint, Sql.leading?]

namespace Model

/-- A name of a key field under which the key is not stored. -/
def Renames (model : Model) (name : String) : Prop :=
  ∃ field ∈ model.keyFields, field.name = name ∧ ∃ column ∈ field.column, column ≠ name

theorem isKey_iff : model.isKey name = true ↔
    name = model.key ∨ ∃ field ∈ model.keyFields, field.name = name := by
  simp [isKey, keyFields, and_assoc]

/-- The key is stored under the name of its field, unless the field gives another
one. -/
theorem renames_iff (accepted : declared.settled settings = .ok model) :
    model.Renames name ↔ model.isKey name = true ∧ name ≠ model.key := by
  obtain ⟨settledKey, _⟩ := sound_of_settled accepted
  rw [isKey_iff]
  unfold keyColumn at settledKey
  unfold Renames
  cases fields : model.keyFields with
  | nil => simp
  | cons field others =>
      rw [fields] at settledKey
      cases others with
      | cons second more => cases settledKey
      | nil =>
          have stored : field.column.getD field.name = model.key := Except.ok.inj settledKey
          constructor
          · rintro ⟨_, member, named, column, given, other⟩
            cases List.mem_singleton.mp member
            rw [Option.mem_def.mp given, Option.getD_some] at stored
            exact ⟨.inr ⟨field, member, named⟩, fun same => other (stored.trans same.symm)⟩
          · rintro ⟨same | ⟨_, member, named⟩, other⟩
            · exact absurd same other
            · cases List.mem_singleton.mp member
              cases given : field.column with
              | none =>
                  rw [given, Option.getD_none] at stored
                  exact absurd (named.symm.trans stored) other
              | some column =>
                  rw [given, Option.getD_some] at stored
                  exact ⟨field, member, named, column, given,
                    fun same => other (same.symm.trans stored)⟩

theorem mem_columnNames_iff (accepted : declared.settled settings = .ok model)
    (present : (model.field? name).isSome = true) :
    name ∈ Schema.Ddl.columnNames settings model ↔ ¬ model.Renames name := by
  obtain ⟨field, found⟩ := Option.isSome_iff_exists.mp present
  have named : field.name = name := by simpa using List.find?_some found
  have member : field ∈ model.fields := List.mem_of_find?_eq_some found
  rw [Schema.Ddl.columnNames_eq, renames_iff accepted, List.mem_cons]
  constructor
  · rintro (same | column) ⟨isKey, other⟩
    · exact other same
    · obtain ⟨field, column, same⟩ := List.mem_map.mp column
      have regular : model.isKey field.name = false := by
        simpa using (List.mem_filter.mp column).2
      rw [same, isKey] at regular
      cases regular
  · intro notRenamed
    cases isKey : model.isKey name with
    | true => exact .inl (Classical.byContradiction fun other => notRenamed ⟨isKey, other⟩)
    | false =>
        have column : field ∈ model.columns :=
          List.mem_filter.mpr ⟨member, by rw [named, isKey]; rfl⟩
        exact .inr (List.mem_map.mpr ⟨field, column, named⟩)

theorem key_mem_columnNames (settings : Settings) (model : Model) :
    model.key ∈ Schema.Ddl.columnNames settings model := by
  rw [Schema.Ddl.columnNames_eq]
  exact List.mem_cons_self

theorem mem_columnNames_of_settable {entry : Field × Value}
    (settable : entry ∈ model.settable record) :
    entry.1.name ∈ Schema.Ddl.columnNames settings model := by
  obtain ⟨⟨name, value⟩, _, chosen⟩ := List.mem_filterMap.mp settable
  dsimp only at chosen
  split at chosen
  · cases chosen
  · next regular =>
    obtain ⟨field, found, same⟩ := Option.map_eq_some_iff.mp chosen
    cases same
    have named : field.name = name := by simpa using List.find?_some found
    have column : field ∈ model.columns :=
      List.mem_filter.mpr ⟨List.mem_of_find?_eq_some found, by simp [named, regular]⟩
    rw [Schema.Ddl.columnNames_eq]
    exact List.mem_cons_of_mem _ (List.mem_map_of_mem column)

end Model

/-- The field that is searched for the elements of a list.  A list without elements
settles the condition without a look at the field. -/
def Value.searched (name : String) : Value → List String
  | .list [] => []
  | _ => [name]

mutual

/-- The fields that an expression on a field looks at. -/
def Expr.fieldNames (name : String) : Expr → List String
  | .eq _ | .compare _ _ | .between _ _ | .greatest _ _ none => [name]
  | .oneOf values | .noneOf values => values.searched name
  | .greatest _ _ (some filter) => name :: Filter.fieldNames filter

def Filter.fieldNames : List (String × Expr) → List String
  | [] => []
  | (name, expr) :: rest => expr.fieldNames name ++ Filter.fieldNames rest

end

def Selection.orderNames (selection : Selection) : List String :=
  selection.order.filterMap fun text => (OrderTerm.ofText text).toOption.map (·.column)

def Selection.fieldNames (selection : Selection) : List String :=
  Filter.fieldNames selection.filter ++ selection.orderNames

theorem Operand.searched_of_compileList {field : Option Field} {values : Value}
    {operands : List Operand} (name : String)
    (compiled : outcome (compileList field values) before = (.ok operands, after)) :
    (if operands.isEmpty then [] else [name]) = values.searched name := by
  cases values with
  | list items =>
      cases items with
      | nil =>
          cases compiled
          rfl
      | cons item rest =>
          simp only [compileList, List.mapM_cons] at compiled
          obtain ⟨operand, _, _, compiled⟩ := Binding.steps_of_bind compiled
          obtain ⟨others, _, _, same⟩ := Binding.steps_of_bind compiled
          cases same
          rfl
  | _ =>
      cases compiled
      rfl

namespace Condition

mutual

theorem columns_of_compile (model : Model) (column : String) : ∀ {expr : Expr}
    {before after : Parameters} {condition : Condition},
    outcome (compile model column expr) before = (.ok condition, after) →
      condition.columns = expr.fieldNames column
  | .eq value, _, _, _, done => by
      obtain ⟨operand, _, _, done⟩ := Binding.steps_of_bind done
      cases done
      split <;> rfl
  | .compare comparison value, _, _, _, done => by
      obtain ⟨operand, _, _, done⟩ := Binding.steps_of_bind done
      cases done
      split <;> rfl
  | .between low high, _, _, _, done => by
      obtain ⟨low, _, _, done⟩ := Binding.steps_of_bind done
      obtain ⟨high, _, _, done⟩ := Binding.steps_of_bind done
      cases done
      rfl
  | .oneOf values, _, _, _, done => by
      obtain ⟨items, _, bound, done⟩ := Binding.steps_of_bind done
      cases done
      exact Operand.searched_of_compileList column bound
  | .noneOf values, _, _, _, done => by
      obtain ⟨items, _, bound, done⟩ := Binding.steps_of_bind done
      cases done
      exact Operand.searched_of_compileList column bound
  | .greatest aggregated source none, _, _, _, done => by
      cases done
      rfl
  | .greatest aggregated source (some filter), _, _, _, done => by
      obtain ⟨nested, _, compiled, done⟩ := Binding.steps_of_bind done
      cases done
      rw [columns, columns_of_compileAll model compiled, Expr.fieldNames]

theorem columns_of_compileAll (model : Model) : ∀ {filter : List (String × Expr)}
    {before after : Parameters} {conditions : List Condition},
    outcome (compileAll model filter) before = (.ok conditions, after) →
      columnsAll conditions = Filter.fieldNames filter
  | [], _, _, _, done => by
      cases done
      rfl
  | (column, expr) :: rest, _, _, _, done => by
      obtain ⟨condition, _, compiled, done⟩ := Binding.steps_of_bind done
      obtain ⟨others, _, compiledRest, done⟩ := Binding.steps_of_bind done
      cases done
      rw [columnsAll, columns_of_compile model column compiled,
        columns_of_compileAll model compiledRest, Filter.fieldNames]

end

end Condition

/-- A statement that mentions no column but those of the table. -/
def Prepared.Within (settings : Settings) (model : Model) (prepared : Prepared) : Prop :=
  ∀ column ∈ Sql.columns prepared.text, column ∈ Schema.Ddl.columnNames settings model

def SavePlan.Within (settings : Settings) (model : Model) : SavePlan → Prop
  | .insert statement => statement.Within settings model
  | .keyed _ probe update batch =>
    probe.Within settings model ∧ update.Within settings model ∧
      batch.single.Within settings model

/-- What assignments mention are columns of the table and made-up names. -/
theorem Model.columns_of_assignments {assignments : List Assignment}
    (bound : (model.assignments record).complete .empty = .ok (assignments, parameters))
    (settings : Settings) :
    (∀ column ∈ assignments.map (·.column), column ∈ Schema.Ddl.columnNames settings model) ∧
      ∀ label ∈ Assignment.mentioned assignments, Sql.IsLabel label := by
  constructor
  · intro column member
    obtain ⟨assignment, included, rfl⟩ := List.mem_map.mp member
    obtain ⟨entry, settable, same, _⟩ :=
      model.assignments_hold bound parameters (.refl parameters) assignment included
    rw [same]
    exact mem_columnNames_of_settable settable
  · obtain ⟨mentioned, numbered⟩ := (model.draws_assignments record).complete bound
    rw [mentioned, numbered]
    exact fun label => Parameters.isLabel_of_mem_namesFrom

theorem Batch.mentions_sql (batch : Batch)
    (given : ∀ statement ∈ batch.statements, ∀ text, statement ≠ .verbatim text) :
    Mentions batch.sql (batch.statements.flatMap Statement.columns) := by
  refine .separated rfl rfl fun statement member => ?_
  have closed : Sql.Apart [.text ";"] := .words rfl
  have mentions := (statement.mentions_sql (given statement member)).append (.words rfl .nil) closed
  rwa [List.append_nil] at mentions

namespace Prepared

/-- The columns that are read in the text of a prepared statement are those that the
statement says. -/
theorem within_iff {statement : Statement} (given : ∀ text, statement ≠ .verbatim text)
    (plain : statement.Plain) (labels : ∀ label ∈ statement.mentioned, Sql.IsLabel label) :
    Within settings model { statement, parameters } ↔
      ∀ column ∈ statement.columns, column ∈ Schema.Ddl.columnNames settings model := by
  have read : Sql.columns statement.text = statement.columns := by
    refine (statement.mentions_sql given).columns_render (statement.readable_sql plain) ?_
    rwa [statement.parameters_sql]
  rw [Within, text, read]

theorem within_of_columns {statement : Statement} (given : ∀ text, statement ≠ .verbatim text)
    (plain : statement.Plain) (labels : ∀ label ∈ statement.mentioned, Sql.IsLabel label)
    (columns : ∀ column ∈ statement.columns, column ∈ Schema.Ddl.columnNames settings model) :
    Within settings model { statement, parameters } :=
  (within_iff given plain labels).mpr columns

theorem within_probeOf (registry : Registry) (model : Model) (key : Value) :
    (probeOf registry model key).Within registry.settings model := by
  have labels : ∀ label ∈ [Statement.keyParameter], Sql.IsLabel label :=
    List.forall_mem_singleton.mpr rfl
  refine within_of_columns (by simp) trivial labels ?_
  exact List.forall_mem_singleton.mpr (Model.key_mem_columnNames registry.settings model)

theorem within_of_insert (known : registry.model name = .ok model)
    (done : insert registry name record = .ok prepared) :
    prepared.Within registry.settings model := by
  obtain ⟨assignments, parameters, bound, rfl⟩ := parts_of_insert known done
  obtain ⟨columns, labels⟩ := Model.columns_of_assignments bound registry.settings
  exact within_of_columns (by simp) trivial labels columns

/-- Assignments and the key by which they single out a row. -/
theorem within_update {assignments : List Assignment} {drawn : Parameters}
    (bound : (model.assignments record).complete .empty = .ok (assignments, drawn))
    (table : Table) (settings : Settings) (parameters : Parameters) :
    Within settings model
      { statement := .update table model.key assignments, parameters } := by
  obtain ⟨columns, labels⟩ := Model.columns_of_assignments bound settings
  refine within_of_columns (by simp) trivial ?_ ?_
  · intro label member
    simp only [Statement.mentioned] at member
    rcases List.mem_append.mp member with drawn | keyed
    · exact labels label drawn
    · have same : label = Statement.keyParameter := by
        split at keyed <;> simpa using keyed
      exact same ▸ rfl
  · intro column member
    simp only [Statement.columns] at member
    split at member
    · cases member
    · rcases List.mem_append.mp member with assigned | keyed
      · exact columns column assigned
      · exact List.mem_singleton.mp keyed ▸ Model.key_mem_columnNames settings model

theorem within_of_update (known : registry.model name = .ok model)
    (done : update registry name key record = .ok prepared) :
    prepared.Within registry.settings model := by
  obtain ⟨assignments, parameters, bound, rfl⟩ := parts_of_update known done
  exact within_update bound _ _ _

theorem within_single (batch : Batch)
    (given : ∀ statement ∈ batch.statements, ∀ text, statement ≠ .verbatim text)
    (plain : ∀ statement ∈ batch.statements, statement.Plain)
    (labels : ∀ label ∈ batch.statements.flatMap Statement.mentioned, Sql.IsLabel label)
    (columns : ∀ column ∈ batch.statements.flatMap Statement.columns,
      column ∈ Schema.Ddl.columnNames settings model) : batch.single.Within settings model := by
  have read := (batch.mentions_sql given).columns_render (Batch.readable_sql plain)
    (by rwa [Batch.parameters_sql])
  rwa [Within, text, Batch.text_single, read]

/-- The batch that inserts a row under its key. -/
theorem within_batch {assignments : List Assignment} {drawn : Parameters}
    (bound : (model.assignments record).complete .empty = .ok (assignments, drawn))
    (table : Table) (settings : Settings) (parameters : Parameters) :
    Within settings model (Batch.single {
      statements := [
        .permitKeys table true, .insertKeyed table model.key assignments, .permitKeys table false,
        .reportKey]
      parameters }) := by
  obtain ⟨columns, labels⟩ := Model.columns_of_assignments bound settings
  have keyLabel : Sql.IsLabel Statement.keyParameter := rfl
  have key := Model.key_mem_columnNames settings model
  refine within_single _ (by simp) (by simp [Statement.Plain]) ?_ ?_
  · simp only [List.flatMap_cons, List.flatMap_nil, Statement.mentioned]
    grind
  · simpa [Statement.columns, key] using columns

theorem within_of_save {plan : SavePlan} (known : registry.model name = .ok model)
    (done : save registry name record = .ok plan) : plan.Within registry.settings model := by
  cases usable : (model.keyValue? record).filter Value.isUsableKey with
  | none =>
      obtain ⟨prepared, inserted, rfl⟩ := parts_of_save_unusable known usable done
      exact within_of_insert known inserted
  | some key =>
      obtain ⟨assignments, drawn, bound, rfl⟩ := parts_of_save_usable known usable done
      exact ⟨within_probeOf registry model key, within_update bound _ _ _,
        within_batch bound _ _ _⟩

theorem columns_of_orders {texts : List String} : ∀ {terms : List OrderTerm},
    texts.mapM OrderTerm.ofText = .ok terms →
      (texts.filterMap fun text => (OrderTerm.ofText text).toOption.map (·.column)) =
        terms.map (·.column) := by
  induction texts with
  | nil =>
      intro terms read
      cases read
      rfl
  | cons text rest ih =>
      intro terms read
      rw [List.mapM_cons] at read
      obtain ⟨term, first, read⟩ := exists_of_bind_eq_ok read
      obtain ⟨others, later, same⟩ := exists_of_bind_eq_ok read
      cases same
      rw [List.filterMap_cons, first, List.map_cons, ih later]
      rfl

/-- An arrangement orders by the given columns, or else by the key if a page is taken. -/
theorem columns_of_arrangement {selection : Selection} {arrangement : Option Arrangement}
    (arranged : arrangement? model selection = .ok arrangement) :
    (arrangement.map Arrangement.columns).getD [] = selection.orderNames ∨
      selection.orderNames = [] ∧ (arrangement.map Arrangement.columns).getD [] = [model.key] := by
  obtain ⟨given, read, arranged⟩ := exists_of_bind_eq_ok arranged
  have names : selection.orderNames = given.map (·.column) := columns_of_orders read
  rw [names]
  cases given with
  | cons first others =>
      cases arranged
      exact .inl rfl
  | nil =>
      cases paged : selection.isPaged with
      | false =>
          rw [paged] at arranged
          cases arranged
          exact .inl rfl
      | true =>
          rw [paged] at arranged
          cases arranged
          exact .inr ⟨rfl, rfl⟩

variable {filter : Filter} {selection : Selection}

theorem names_within_iff (accepted : declared.settled settings = .ok model) {names : List String}
    (present : ∀ name ∈ names, (model.field? name).isSome = true) :
    (∀ name ∈ names, name ∈ Schema.Ddl.columnNames settings model) ↔
      ∀ name ∈ names, ¬ model.Renames name :=
  forall₂_congr fun name member => model.mem_columnNames_iff accepted (present name member)

/-- The conditions of a filter can be read, bind made-up names and mention the fields
of the filter. -/
theorem columns_of_filter {conditions : List Condition} (plain : Filter.Plain filter)
    (bound : (Condition.compileAll model filter).complete .empty = .ok (conditions, parameters)) :
    Sql.Readable (Condition.body conditions) ∧
      (∀ label ∈ (Condition.body conditions).parameters, Sql.IsLabel label) ∧
        Condition.columnsAll conditions = Filter.fieldNames filter := by
  obtain ⟨readable, mentioned, numbered⟩ := conditions_of_compileAll plain bound
  refine ⟨readable, ?_, Condition.columns_of_compileAll model (Binding.outcome_of_complete bound)⟩
  rw [mentioned, numbered]
  exact fun label => Parameters.isLabel_of_mem_namesFrom

theorem within_count_iff (accepted : declared.settled registry.settings = .ok model)
    (known : registry.model name = .ok model) (plain : Filter.Plain filter)
    (present : ∀ name ∈ Filter.fieldNames filter, (model.field? name).isSome = true)
    (done : count registry name filter = .ok prepared) :
    prepared.Within registry.settings model ↔
      ∀ name ∈ Filter.fieldNames filter, ¬ model.Renames name := by
  obtain ⟨conditions, parameters, bound, rfl⟩ := parts_of_count known done
  obtain ⟨readable, labels, columns⟩ := columns_of_filter plain bound
  refine Iff.trans (within_iff (by simp) readable labels) ?_
  rw [← names_within_iff accepted present, Statement.columns, columns]

theorem within_select_iff (accepted : declared.settled registry.settings = .ok model)
    (known : registry.model name = .ok model) (plain : Filter.Plain selection.filter)
    (present : ∀ name ∈ selection.fieldNames, (model.field? name).isSome = true)
    (done : select registry name selection = .ok prepared) :
    prepared.Within registry.settings model ↔
      ∀ name ∈ selection.fieldNames, ¬ model.Renames name := by
  obtain ⟨conditions, parameters, arrangement, bound, arranged, rfl⟩ := parts_of_select known done
  obtain ⟨readable, labels, columns⟩ := columns_of_filter plain bound
  refine Iff.trans (within_iff (by simp) readable labels) ?_
  rw [← names_within_iff accepted present, Statement.columns, columns, Selection.fieldNames]
  rcases columns_of_arrangement arranged with same | ⟨none, keyed⟩
  · rw [same]
  · rw [none, keyed]
    simp [or_imp, forall_and, Model.key_mem_columnNames]

end Prepared

/-- Writing mentions columns of the table alone.  Selecting and counting by declared
fields does so exactly if no name among them is that of a key field whose column is
called otherwise. -/
theorem mentions_declared_iff (registry : Registry) (name : String) {declared model : Model}
    (accepted : declared.settled registry.settings = .ok model)
    (known : registry.model name = .ok model) :
    (∀ record prepared, Prepared.insert registry name record = .ok prepared →
      prepared.Within registry.settings model) ∧
    (∀ key record prepared, Prepared.update registry name key record = .ok prepared →
      prepared.Within registry.settings model) ∧
    (∀ record plan, Prepared.save registry name record = .ok plan →
      plan.Within registry.settings model) ∧
    (∀ selection prepared, Filter.Plain selection.filter →
      (∀ name ∈ selection.fieldNames, (model.field? name).isSome = true) →
        Prepared.select registry name selection = .ok prepared →
          (prepared.Within registry.settings model ↔
            ∀ name ∈ selection.fieldNames, ¬ model.Renames name)) ∧
    ∀ filter prepared, Filter.Plain filter →
      (∀ name ∈ Filter.fieldNames filter, (model.field? name).isSome = true) →
        Prepared.count registry name filter = .ok prepared →
          (prepared.Within registry.settings model ↔
            ∀ name ∈ Filter.fieldNames filter, ¬ model.Renames name) :=
  ⟨fun _ _ => Prepared.within_of_insert known, fun _ _ _ => Prepared.within_of_update known,
    fun _ _ => Prepared.within_of_save known,
    fun _ _ => Prepared.within_select_iff accepted known,
    fun _ _ => Prepared.within_count_iff accepted known⟩

/-- A model that stores its key under a name of its own. -/
def member : Model where
  name := "Member"
  fields := [
    { name := "number", type := .number, primaryKey := true, column := some "MemberNo" },
    { name := "name", type := .string }]
  key := "MemberNo"

def members : Registry :=
  { settings := {}, table := SortedTable.empty.insert member.name member }

def enrolled : Record :=
  (Record.empty.set "number" (.int 5)).set "name" (.text "Ada")

theorem member_within :
    (∃ key probe update batch,
      Prepared.save members member.name enrolled = .ok (.keyed key probe update batch) ∧
        probe.Within {} member ∧ update.Within {} member ∧ batch.single.Within {} member) ∧
    ∃ prepared, Prepared.count members member.name [("name", .eq (.text "Ada"))] = .ok prepared ∧
      prepared.Within {} member := by
  have accepted : member.settled members.settings = .ok member := rfl
  have known : members.model member.name = .ok member := rfl
  have plain : Filter.Plain [("name", .eq (.text "Ada"))] := ⟨trivial, trivial⟩
  have present : ∀ name ∈ Filter.fieldNames [("name", .eq (.text "Ada"))],
      (member.field? name).isSome = true := by
    decide
  obtain ⟨_, _, saved, _, counted⟩ := mentions_declared_iff members member.name accepted known
  refine ⟨⟨_, _, _, _, rfl, saved enrolled _ rfl⟩, _, rfl, (counted _ _ plain present rfl).mpr ?_⟩
  simp [Filter.fieldNames, Expr.fieldNames, Model.Renames, Model.keyFields, member]

/-- A condition on the key field by its name asks for a column that is not there. -/
theorem select_may_mention_undeclared :
    member.settled {} = .ok member ∧ Schema.Ddl.columnNames {} member = ["MemberNo", "name"] ∧
      ∃ prepared, Prepared.select members member.name
          { filter := [("number", .eq (.int 5))], order := ["number DESC"] } = .ok prepared ∧
        prepared.text = "SELECT * FROM [dbo].[Member]\nWHERE [number] = (@param1)\n" ++
          "ORDER BY [number] DESC OFFSET 0 ROWS" ∧
        ¬ prepared.Within {} member := by
  refine ⟨rfl, rfl, _, rfl, rfl, fun within => ?_⟩
  have column := within "number" (by decide)
  exact absurd column (by decide)

end SqlMapper
