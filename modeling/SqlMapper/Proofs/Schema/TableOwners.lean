import Mathlib.Data.List.Forall2
import Mathlib.Data.List.Infix
import SqlMapper.Proofs.Model.Runs
import SqlMapper.Proofs.Schema.DryRun
import SqlMapper.Proofs.Schema.Independence
import SqlMapper.Proofs.Text.Names

namespace SqlMapper

/-! Whose table it is.

The table of a model is called by what its declaration says, with points written as
underscores.  Nothing keeps two models from declaring what comes to the same name, and
then both of them are given statements for one table.
-/

open Text (sameName)

/-! Names that come to the same. -/

namespace Text

variable {left right : String}

theorem toLower_eq_iff {char other : Char} (small : other.toLower = other)
    (noLetter : other.toNat < 97) : char.toLower = other ↔ char = other := by
  constructor
  · intro same
    rcases toLower_cases char with kept | ⟨low, _, moved⟩
    · exact kept.symm.trans same
    · rw [same] at moved
      omega
  · intro same
    rw [same, small]

/-- Characters that become the same in the name of a table, the case of letters apart. -/
def AlikeChar (left right : Char) : Prop :=
  left.toLower = right.toLower ∨ left ∈ ['.', '_'] ∧ right ∈ ['.', '_']

/-- Texts of the same length with alike characters at the same places. -/
def Alike (left right : String) : Prop :=
  List.Forall₂ AlikeChar left.toList right.toList

theorem alikeChar_iff {left right : Char} :
    AlikeChar left right ↔
      (if left = '.' then '_' else left).toLower =
        (if right = '.' then '_' else right).toLower := by
  have small : ('_' : Char).toLower = '_' := by decide
  have toUnderscore (char : Char) : char.toLower = '_' ↔ char = '_' :=
    toLower_eq_iff small (by decide)
  have toPoint (char : Char) : char.toLower = '.' ↔ char = '.' :=
    toLower_eq_iff (by decide) (by decide)
  unfold AlikeChar
  by_cases first : left = '.' <;> by_cases second : right = '.'
  · simp [first, second]
  · simp [first, second, small, toUnderscore, toPoint, eq_comm (b := right.toLower)]
  · simp [first, second, small, toUnderscore, toPoint]
  · have underscores : left = '_' → right = '_' → left.toLower = right.toLower :=
      fun same other => by rw [same, other]
    simpa [first, second] using underscores

theorem sameName_storedName :
    sameName (storedName left) (storedName right) = true ↔ Alike left right := by
  rw [sameName_iff, lowerAscii, lowerAscii, storedName, storedName, String.ofList_inj, Alike]
  simp only [String.toList_ofList, List.map_map]
  rw [← List.forall₂_eq_eq_eq, List.forall₂_map_left_iff, List.forall₂_map_right_iff]
  simp only [Function.comp_apply, ← alikeChar_iff]

end Text

namespace Registry

/-- Differently named models have differently named tables. -/
def TablesApart (registry : Registry) : Prop :=
  ∀ left ∈ registry.models, ∀ right ∈ registry.models, left.name ≠ right.name →
    sameName left.tableName right.tableName = false

/-- Tables are apart exactly if what names them in the declarations is not alike. -/
theorem tablesApart_iff {registry : Registry} :
    registry.TablesApart ↔
      ∀ left ∈ registry.models, ∀ right ∈ registry.models, left.name ≠ right.name →
        ¬ Text.Alike (left.table.getD left.name) (right.table.getD right.name) := by
  unfold TablesApart Model.tableName
  simp only [← Text.sameName_storedName, Bool.not_eq_true]

end Registry

namespace Schema

open Dialogue (Confined Sure)
open SchemaOperation Synchronizer

variable {σ : Type} {server : Server liveSchema σ} {state : σ} {synchronizer : Synchronizer}
  {mode : SyncMode} {model : Model} {report : ModelReport} {ddl : Settings}

/-! Every statement is for the table of the model that is treated. -/

/-- The statement names the table of the model. -/
def Names (ddl : Settings) (model : Model) (statement : Sql) : Prop :=
  (Ddl.table ddl model).sql <:+: statement

theorem names_createIndex (ddl : Settings) (model : Model) (index : Index) :
    Names ddl model (Ddl.createIndex ddl model index) := by
  unfold Names Ddl.createIndex
  iterate 4 apply List.infix_append_of_infix_left
  exact List.infix_append_right

theorem names_createTable (ddl : Settings) (model : Model) :
    Names ddl model (Ddl.createTable ddl model) := by
  unfold Names Ddl.createTable
  iterate 6 apply List.infix_append_of_infix_left
  exact List.infix_append_right

theorem names_dropTable (ddl : Settings) (model : Model) :
    Names ddl model (Ddl.dropTable ddl model) := by
  unfold Names Ddl.dropTable
  apply List.infix_append_of_infix_left
  exact List.infix_append_right

theorem names_change (ddl : Settings) (model : Model) (change : Change) :
    Names ddl model (Ddl.change ddl model change) := by
  cases change with
  | addColumn field | alterColumn field =>
      apply List.infix_append_of_infix_left
      exact List.infix_append _ _ _
  | dropColumn name => exact List.infix_append _ _ _
  | dropIndex name => exact List.infix_append_right
  | createIndex index => exact names_createIndex ddl model index

theorem names_of_changes? {changes : List Change} {statement : Sql}
    (written : Ddl.changes? ddl model changes = some statement) : Names ddl model statement := by
  cases changes with
  | nil => cases written
  | cons change changes =>
      cases written
      refine List.infix_append_of_infix_left ((names_change ddl model change).trans ?_)
      -- The first of the changes comes first in the script.
      rw [List.map_cons, Sql.separated]
      cases changes with
      | nil => simp
      | cons next changes =>
          rw [List.map_cons, List.intercalate_cons_cons, List.append_assoc]
          exact List.infix_append_left

theorem names_planned (ddl : Settings) (mode : SyncMode) (model : Model) (facts : TableFacts) :
    ∀ statement ∈ (planned ddl mode model facts).statements, Names ddl model statement := by
  intro statement member
  unfold planned at member
  split at member
  · rcases List.mem_pair.mp member with dropped | created
    · exact dropped ▸ names_dropTable ddl model
    · exact created ▸ names_createTable ddl model
  · split at member
    · exact List.mem_singleton.mp member ▸ names_createTable ddl model
    · exact names_of_changes? (Option.mem_toList.mp member)

/-! Requests on behalf of a model. -/

/-- The table that a request is about. -/
def SchemaRequest.table : SchemaRequest → String
  | .columns table | .indexes table | .execute table _ => table

/-- The request is about the table of the model, and a statement in it names that table. -/
structure SchemaRequest.Serves (ddl : Settings) (model : Model) (request : SchemaRequest) :
    Prop where
  table : request.table = model.tableName
  names : ∀ table statement, request.statement? = some (table, statement) →
    Names ddl model statement

theorem serves_columns (ddl : Settings) (model : Model) :
    (SchemaRequest.columns model.tableName).Serves ddl model :=
  ⟨rfl, fun _ _ none => nomatch none⟩

theorem serves_indexes (ddl : Settings) (model : Model) :
    (SchemaRequest.indexes model.tableName).Serves ddl model :=
  ⟨rfl, fun _ _ none => nomatch none⟩

theorem serves_execute {statement : Sql} (names : Names ddl model statement) :
    (SchemaRequest.execute model.tableName statement).Serves ddl model := by
  refine ⟨rfl, fun table other sent => ?_⟩
  cases sent
  exact names

theorem confined_columns (ddl : Settings) (model : Model) :
    (ExceptT.run (columns model.tableName)).Confined (SchemaRequest.Serves ddl model)
      (Sure fun _ => True) := by
  refine ⟨serves_columns ddl model, fun answer => ?_⟩
  cases answer <;> trivial

theorem confined_indexes (ddl : Settings) (model : Model) :
    (ExceptT.run (indexes model.tableName)).Confined (SchemaRequest.Serves ddl model)
      (Sure fun _ => True) := by
  refine ⟨serves_indexes ddl model, fun answer => ?_⟩
  cases answer <;> trivial

theorem confined_survey (synchronizer : Synchronizer) (mode : SyncMode) (model : Model) :
    (ExceptT.run (synchronizer.survey mode model)).Confined
      (SchemaRequest.Serves synchronizer.ddl model)
      (Sure fun report => ∃ facts, report = planned synchronizer.ddl mode model facts) := by
  by_cases rebuilt : mode = .rebuild
  · subst rebuilt
    exact ⟨{}, rfl⟩
  rw [survey_eq rebuilt]
  refine (confined_columns synchronizer.ddl model).bind_run fun found _ => ?_
  by_cases missing : found.isEmpty
  · rw [if_pos missing]
    exact ⟨{ columns := found }, by simp [planned, rebuilt, missing]⟩
  rw [if_neg missing]
  refine (confined_indexes synchronizer.ddl model).bind_run fun entries _ => ?_
  exact ⟨{ columns := found, indexes := entries }, by simp [planned, rebuilt, missing]⟩

theorem confined_execute {statement : Sql} (names : Names ddl model statement) :
    (ExceptT.run (execute model.tableName statement)).Confined
      (SchemaRequest.Serves ddl model) (Sure fun _ => True) := by
  refine ⟨serves_execute names, fun answer => ?_⟩
  cases answer <;> trivial

theorem confined_forM {statements : List Sql}
    (names : ∀ statement ∈ statements, Names ddl model statement) :
    (ExceptT.run (statements.forM (execute model.tableName))).Confined
      (SchemaRequest.Serves ddl model) (Sure fun _ => True) := by
  induction statements with
  | nil => trivial
  | cons statement rest ih =>
      obtain ⟨first, later⟩ := List.forall_mem_cons.mp names
      rw [List.forM_eq_forM, List.forM_cons]
      exact (confined_execute first).bind_run fun _ _ => ih later

/-- Treating a model, nothing is asked and nothing is executed but for its own table. -/
theorem confined_syncModel (synchronizer : Synchronizer) (mode : SyncMode) (model : Model) :
    (ExceptT.run (synchronizer.syncModel mode model)).Confined
      (SchemaRequest.Serves synchronizer.ddl model) (Sure fun _ => True) := by
  rw [syncModel_eq]
  refine (confined_survey synchronizer mode model).bind_run fun report found => ?_
  obtain ⟨facts, rfl⟩ := found
  split
  · trivial
  · rw [(planned_head synchronizer.ddl mode model facts).2.1]
    exact (confined_forM (names_planned synchronizer.ddl mode model facts)).bind_run
      fun _ _ => trivial

/-- Whatever turns the models take, what is asked and executed is for the table of the
model whose turn it is. -/
theorem SideBySide.serves {trace : List (Nat × Exchange liveSchema)}
    {results : List (Except SchemaError ModelReport)}
    (treats : SideBySide synchronizer mode server state trace results) :
    ∀ entry ∈ trace, ∃ model, synchronizer.registry.models[entry.1]? = some model ∧
      SchemaRequest.Serves synchronizer.ddl model entry.2.request := by
  have each (place : Nat) (dialogue : Dialogue liveSchema (Except SchemaError ModelReport))
      (found : (synchronizer.treatments mode)[place]? = some dialogue) :
      dialogue.Confined (fun request => ∃ model, synchronizer.registry.models[place]? = some model ∧
        SchemaRequest.Serves synchronizer.ddl model request) (Sure fun _ => True) := by
    rw [treatments, List.getElem?_map] at found
    obtain ⟨model, listed, same⟩ := Option.map_eq_some_iff.mp found
    subst same
    exact (confined_syncModel synchronizer mode model).mono fun request serves =>
      ⟨model, listed, serves⟩
  exact Dialogue.Joined.confined treats each

/-! When two models get into each other's way. -/

/-- Rebuilding all tables, each model drops its own at some time. -/
theorem exists_drops (synchronizer : Synchronizer) :
    ∃ trace results,
      SideBySide synchronizer .rebuild (recorded fun _ => {}) () trace results ∧
        ∀ (place : Nat) (model : Model), synchronizer.registry.models[place]? = some model →
          ∃ exchange, (place, exchange) ∈ trace ∧ SchemaRequest.statement? exchange.request =
            some (model.tableName, Ddl.dropTable synchronizer.ddl model) := by
  obtain ⟨trace, results, interleaved, _⟩ :=
    exists_sideBySide synchronizer .rebuild (recorded fun _ => {}) ()
  refine ⟨trace, results, interleaved, fun place model listed => ?_⟩
  have steadily : Dialogue.Steady (recorded fun _ => {})
      fun request => (recorded (fun _ => {}) request ()).1 := fun request _ => rfl
  have separate := (interleaved.alone steadily).2 place model listed
  have sent : statementsOf (Dialogue.exchangesAt place trace) =
      [(model.tableName, Ddl.dropTable synchronizer.ddl model),
        (model.tableName, Ddl.createTable synchronizer.ddl model)] := by
    rw [separate]
    exact (synchronize_of_shown (shows_recorded _) (accepts_recorded _)
      (synchronizer.only model) .rebuild ()).2
  have first : (model.tableName, Ddl.dropTable synchronizer.ddl model) ∈
      statementsOf (Dialogue.exchangesAt place trace) := sent ▸ List.mem_cons_self
  obtain ⟨exchange, member, same⟩ := List.mem_filterMap.mp first
  exact ⟨exchange, Dialogue.mem_exchangesAt.mp member, same⟩

/-- No two models are ever given statements for the same table. -/
def NeverCross (synchronizer : Synchronizer) : Prop :=
  ∀ {σ : Type} (server : Server liveSchema σ) (state : σ) (mode : SyncMode)
    (trace : List (Nat × Exchange liveSchema)) (results : List (Except SchemaError ModelReport)),
    SideBySide synchronizer mode server state trace results →
      ∀ first ∈ trace, ∀ second ∈ trace, first.1 ≠ second.1 →
        ∀ (one other : String) (statement next : Sql),
          SchemaRequest.statement? first.2.request = some (one, statement) →
          SchemaRequest.statement? second.2.request = some (other, next) →
            sameName one other = false

theorem table_of_statement {request : SchemaRequest} {table : String} {statement : Sql}
    (sent : request.statement? = some (table, statement)) : request.table = table := by
  cases request with
  | columns other | indexes other => cases sent
  | execute other statement =>
      cases sent
      rfl

theorem neverCross_iff {settings : Settings} {calls : List Model} {ddl : Settings} :
    NeverCross { registry := Registry.run settings calls, ddl } ↔
      (Registry.run settings calls).TablesApart := by
  constructor
  · intro never left first right second different
    obtain ⟨place, here⟩ := List.mem_iff_getElem?.mp first
    obtain ⟨other, there⟩ := List.mem_iff_getElem?.mp second
    obtain ⟨trace, results, interleaved, drops⟩ :=
      exists_drops { registry := Registry.run settings calls, ddl }
    obtain ⟨one, earlier, dropped⟩ := drops place left here
    obtain ⟨next, later, alsoDropped⟩ := drops other right there
    have apart : place ≠ other := by
      rintro rfl
      rw [here] at there
      cases there
      exact different rfl
    exact never _ _ _ _ _ interleaved _ earlier _ later apart _ _ _ _ dropped alsoDropped
  · intro apart σ server state mode trace results interleaved first inside second member different
      one other statement next sent alsoSent
    obtain ⟨left, here, serves⟩ := interleaved.serves first inside
    obtain ⟨right, there, servesToo⟩ := interleaved.serves second member
    rw [← table_of_statement sent, ← table_of_statement alsoSent, serves.table, servesToo.table]
    refine apart left (List.mem_of_getElem? here) right (List.mem_of_getElem? there) fun same => ?_
    -- Names are taken once, so models at different places are called differently.
    have named := Registry.nodup_names_run settings calls
    refine different ((List.getElem?_inj ?_ named).mp ?_)
    · rw [List.length_map]
      exact (List.getElem?_eq_some_iff.mp here).1
    · rw [List.getElem?_map, List.getElem?_map, here, there, Option.map_some, Option.map_some, same]

/-- Models have tables of their own, and keep off one another's, exactly if what names the
tables in their declarations is not alike.  What is done for a model concerns its own table
in any case. -/
theorem tables_owned_iff (settings : Settings) (calls : List Model) (ddl : Settings) :
    let registry := Registry.run settings calls
    let synchronizer : Synchronizer := { registry, ddl }
    (registry.TablesApart ↔
        ∀ left ∈ registry.models, ∀ right ∈ registry.models, left.name ≠ right.name →
          ¬ Text.Alike (left.table.getD left.name) (right.table.getD right.name)) ∧
      (NeverCross synchronizer ↔ registry.TablesApart) ∧
      ∀ {σ : Type} (server : Server liveSchema σ) (state : σ) (mode : SyncMode)
        (trace : List (Nat × Exchange liveSchema))
        (results : List (Except SchemaError ModelReport)),
        SideBySide synchronizer mode server state trace results →
          ∀ entry ∈ trace, ∃ model, registry.models[entry.1]? = some model ∧
            SchemaRequest.Serves ddl model entry.2.request :=
  ⟨Registry.tablesApart_iff, neverCross_iff,
    fun _ _ _ _ _ interleaved => interleaved.serves⟩

def dottedUser : Model where
  name := "app.User"
  fields := [{ name := "name", type := .text }]

def user : Model where
  name := "app_User"
  fields := [{ name := "title", type := .text }]

def users : Synchronizer where
  registry :=
    { settings := {}
      table := (SortedTable.empty.insert "app.User" dottedUser).insert "app_User" user }

/-- The table of both models, with the columns of either. -/
def usersTable : TableFacts where
  columns := [
    { name := "id", nullable := false, type := "int" },
    { name := "name", nullable := true, type := "text" },
    { name := "title", nullable := true, type := "text" }]

/-- Both models are accepted and share a table, and each takes away the column of the other. -/
theorem table_may_be_shared :
    Registry.ofModels {} [dottedUser, user] = .ok users.registry ∧
      users.registry.models.map (·.tableName) = ["app_User", "app_User"] ∧
      ¬ users.registry.TablesApart ∧
      statementsOf (Dialogue.attempt (users.synchronize .apply)
          (recorded fun _ => usersTable) ()).exchanges =
        [("app_User", Ddl.change {} dottedUser (.dropColumn "title") ++ [.text ";"]),
          ("app_User", Ddl.change {} user (.dropColumn "name") ++ [.text ";"])] := by
  have shared : users.registry.models = [dottedUser, user] := rfl
  refine ⟨rfl, rfl, fun apart => ?_, ?_⟩
  · have same : sameName dottedUser.tableName user.tableName = true := by decide +kernel
    have different : dottedUser.name ≠ user.name := by decide +kernel
    rw [apart dottedUser (by simp [shared]) user (by simp [shared]) different] at same
    cases same
  · have removed {model : Model} {name : String}
        (difference : (diff model usersTable).changes = [.dropColumn name]) :
        (planned users.ddl .apply model usersTable).due .apply =
          [Ddl.change {} model (.dropColumn name) ++ [.text ";"]] := by
      change (Ddl.changes? {} model (diff model usersTable).changes).toList = _
      rw [difference]
      rfl
    have first : (diff dottedUser usersTable).changes = [.dropColumn "title"] := by decide +kernel
    have second : (diff user usersTable).changes = [.dropColumn "name"] := by decide +kernel
    rw [(synchronize_of_shown (shows_recorded _) (accepts_recorded _) users .apply ()).2, shared]
    simp only [List.flatMap_cons, List.flatMap_nil, removed first, removed second]
    rfl

end Schema

end SqlMapper
