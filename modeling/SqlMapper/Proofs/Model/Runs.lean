import Mathlib.Data.List.Basic
import Mathlib.Data.List.Induction
import SqlMapper.Proofs.Entries
import SqlMapper.Proofs.Model.Registering
import SqlMapper.Proofs.Model.Settled

namespace SqlMapper

/-! Registries over whole runs.

A run is a list of declarations that are registered one after the other.  Some may be
refused; which ones are is up to them alone.  A name stands for what became of the last
declaration that was accepted under it, and every model that a registry holds has a
settled key and sound indexes.
-/

variable {settings : Settings} {registry : Registry} {declaration declared model : Model}
  {calls : List Model} {name : String} {error : CompileError}

namespace Model

/-- What holds of a model that has been registered. -/
structure IsSettled (settings : Settings) (model : Model) : Prop where
  oneKey : model.keyFields.length ≤ 1
  markedKey : ∀ field ∈ model.keyFields, model.key = field.column.getD field.name
  usualKey : model.keyFields = [] →
    model.key = if settings.keysNamedAfterModel then model.name ++ "ID" else "id"
  keyUnindexed : ∀ field ∈ model.fields, model.isKey field.name = true → field.index = none
  inlineIndexes : model.fieldIndexes = model.fields.filterMap Field.fullIndex?
  covering : ∀ index ∈ model.indexes, index.columns ≠ [] ∧
    ∀ column ∈ index.columns, ∃ field ∈ model.fields, field.name = column.field

theorem eq_of_settled (accepted : declared.settled settings = .ok model) :
    model = { declared with key := model.key } := by
  unfold settled at accepted
  cases column : declared.keyColumn settings with
  | error error => simp [column, bind, Except.bind] at accepted
  | ok key =>
      simp only [column, bind, Except.bind] at accepted
      split at accepted
      · cases accepted
      · cases accepted
        rfl

theorem keys_of_keyColumn {key : String} (column : model.keyColumn settings = .ok key) :
    model.keyFields.length ≤ 1 ∧
      (∀ field ∈ model.keyFields, key = field.column.getD field.name) ∧
      (model.keyFields = [] →
        key = if settings.keysNamedAfterModel then model.name ++ "ID" else "id") := by
  unfold keyColumn at column
  split at column
  · next none =>
    cases column
    rw [none]
    exact ⟨Nat.zero_le 1, fun _ member => absurd member List.not_mem_nil, fun _ => rfl⟩
  · next field only =>
    cases column
    rw [only]
    refine ⟨Nat.le_refl 1, fun other member => ?_, fun none => absurd none (List.cons_ne_nil _ _)⟩
    rw [List.mem_singleton.mp member]
  · cases column

theorem index_eq_none_of_sound (sound : model.indexesFault? = none) :
    ∀ field ∈ model.fields, model.isKey field.name = true → field.index = none := by
  intro field member key
  unfold indexesFault? at sound
  split at sound
  · cases sound
  · next unindexed =>
    have fitting := List.find?_eq_none.mp unindexed field member
    simpa [key] using fitting

/-- Only fields that are no key are left out of the inline indexes, and these have none. -/
theorem fieldIndexes_of_unindexed
    (unindexed : ∀ field ∈ model.fields, model.isKey field.name = true → field.index = none) :
    model.fieldIndexes = model.fields.filterMap Field.fullIndex? := by
  rw [fieldIndexes, columns, List.filterMap_filter]
  refine List.filterMap_congr fun field member => ?_
  cases key : model.isKey field.name with
  | false => rfl
  | true =>
      rw [Field.fullIndex?, unindexed field member key]
      rfl

theorem covering_of_sound {index : Index} (sound : model.indexFault? index = none) :
    ∀ column ∈ index.columns, ∃ field ∈ model.fields, field.name = column.field := by
  intro column member
  have listed : column.field ∈ index.fields := List.mem_map_of_mem member
  unfold indexFault? at sound
  split at sound
  · cases sound
  · have known := List.find?_eq_none.mp (Option.map_eq_none_iff.mp sound) _ listed
    obtain ⟨field, found⟩ := Option.ne_none_iff_exists'.mp (by simpa using known)
    have named : field.name = column.field := by
      simpa using List.find?_some (p := fun field : Field => field.name == column.field) found
    exact ⟨field, List.mem_of_find?_eq_some found, named⟩

theorem isSettled_of_settled (accepted : declared.settled settings = .ok model) :
    model.IsSettled settings := by
  obtain ⟨column, sound⟩ := sound_of_settled accepted
  obtain ⟨oneKey, markedKey, usualKey⟩ := keys_of_keyColumn column
  have unindexed := index_eq_none_of_sound sound
  refine ⟨oneKey, markedKey, usualKey, unindexed, fieldIndexes_of_unindexed unindexed, ?_⟩
  intro index member
  have faultless : model.indexFault? index = none := by
    unfold indexesFault? at sound
    split at sound
    · cases sound
    · exact List.findSome?_eq_none_iff.mp sound index member
  exact ⟨columns_ne_nil_of_sound faultless, covering_of_sound faultless⟩

theorem keyColumn_of_keys {key : String} (oneKey : model.keyFields.length ≤ 1)
    (markedKey : ∀ field ∈ model.keyFields, key = field.column.getD field.name)
    (usualKey : model.keyFields = [] →
      key = if settings.keysNamedAfterModel then model.name ++ "ID" else "id") :
    model.keyColumn settings = .ok key := by
  unfold keyColumn
  match marked : model.keyFields with
  | [] => rw [usualKey marked]
  | [field] => rw [markedKey field (marked ▸ List.mem_cons_self)]
  | first :: second :: rest =>
    rw [marked] at oneKey
    exact absurd oneKey (by simp)

theorem indexFault?_of_covering {index : Index} (columned : index.columns ≠ [])
    (covering : ∀ column ∈ index.columns, ∃ field ∈ model.fields, field.name = column.field) :
    model.indexFault? index = none := by
  unfold indexFault?
  rw [List.isEmpty_eq_false_iff.mpr columned, if_neg Bool.false_ne_true, Option.map_eq_none_iff]
  refine List.find?_eq_none.mpr fun name listed => ?_
  obtain ⟨column, member, same⟩ := List.mem_map.mp listed
  obtain ⟨field, declared, named⟩ := covering column member
  have known : (model.field? name).isSome := by
    rw [field?, List.find?_isSome]
    exact ⟨field, declared, beq_iff_eq.mpr (named.trans same)⟩
  simp [Option.isSome_iff_ne_none.mp known]

theorem IsSettled.sound (settled : model.IsSettled settings) : model.indexesFault? = none := by
  have unindexed : (model.fields.find? fun field =>
      field.index.isSome && model.isKey field.name) = none := by
    refine List.find?_eq_none.mpr fun field member indexed => ?_
    obtain ⟨some, key⟩ := Bool.and_eq_true_iff.mp indexed
    rw [settled.keyUnindexed field member key] at some
    cases some
  rw [indexesFault?, unindexed]
  refine List.findSome?_eq_none_iff.mpr fun index member => ?_
  obtain ⟨columned, covering⟩ := settled.covering index member
  exact indexFault?_of_covering columned covering

/-- A declaration is accepted exactly if there is a key with which it is settled. -/
theorem settled_eq_ok_iff :
    declared.settled settings = .ok model ↔
      model = { declared with key := model.key } ∧ model.IsSettled settings := by
  refine ⟨fun accepted => ⟨eq_of_settled accepted, isSettled_of_settled accepted⟩, ?_⟩
  rintro ⟨same, settled⟩
  generalize model.key = key at same
  subst same
  have column : declared.keyColumn settings = .ok key :=
    keyColumn_of_keys settled.oneKey settled.markedKey settled.usualKey
  have sound : ({ declared with key } : Model).indexesFault? = none := settled.sound
  unfold Model.settled
  simp only [column, bind, Except.bind, sound]

end Model

namespace Registry

/-- Registers a declaration.  The answer is the model that is registered, and a refused
declaration leaves the registry as it is. -/
def attempt (registry : Registry) (declaration : Model) : Except CompileError Model × Registry :=
  match registry.define declaration with
  | .ok next => (next.model declaration.name, next)
  | .error error => (.error error, registry)

def run (settings : Settings) (calls : List Model) : Registry :=
  calls.foldl (fun registry declaration => (registry.attempt declaration).2) (empty settings)

theorem attempt_of_settled (accepted : declaration.settled registry.settings = .ok model) :
    registry.attempt declaration =
      (.ok model, { registry with table := registry.table.insert declaration.name model }) := by
  have same : model.name = declaration.name := by rw [Model.eq_of_settled accepted]
  have defined : registry.define declaration =
      .ok { registry with table := registry.table.insert declaration.name model } := by
    rw [define, accepted, ← same]
    rfl
  rw [attempt, defined]
  simp [Registry.model]

theorem attempt_of_refused (refused : declaration.settled registry.settings = .error error) :
    registry.attempt declaration = (.error error, registry) := by
  have failed : registry.define declaration = .error error := by
    rw [define, refused]
    rfl
  rw [attempt, failed]

/-- Whether a declaration is accepted does not depend on the models that are there. -/
theorem answer_attempt (registry : Registry) (declaration : Model) :
    (registry.attempt declaration).1 = declaration.settled registry.settings := by
  cases settled : declaration.settled registry.settings with
  | ok model => rw [attempt_of_settled settled]
  | error error => rw [attempt_of_refused settled]

theorem settings_attempt (registry : Registry) (declaration : Model) :
    (registry.attempt declaration).2.settings = registry.settings := by
  cases settled : declaration.settled registry.settings with
  | ok model => rw [attempt_of_settled settled]
  | error error => rw [attempt_of_refused settled]

/-- What a single call does to what stands under a name. -/
theorem get?_attempt (registry : Registry) (declaration : Model) (name : String) :
    (registry.attempt declaration).2.table.get? name =
      (if declaration.name = name then (declaration.settled registry.settings).toOption
        else none).or (registry.table.get? name) := by
  cases settled : declaration.settled registry.settings with
  | error error =>
      rw [attempt_of_refused settled]
      simp [Except.toOption]
  | ok model =>
      rw [attempt_of_settled settled]
      by_cases same : declaration.name = name
      · subst same
        simp [Except.toOption]
      · simp only [if_neg same, Option.none_or]
        exact SortedTable.get?_insert_of_ne _ _ fun equal => same equal.symm

theorem run_concat (settings : Settings) (calls : List Model) (declaration : Model) :
    run settings (calls ++ [declaration]) = ((run settings calls).attempt declaration).2 := by
  rw [run, List.foldl_append]
  rfl

theorem settings_run (settings : Settings) (calls : List Model) :
    (run settings calls).settings = settings := by
  induction calls using List.reverseRecOn with
  | nil => rfl
  | append_singleton calls declaration ih => rw [run_concat, settings_attempt, ih]

/-- What stands under a name, looking for it from the last call on. -/
theorem get?_run (settings : Settings) (calls : List Model) (name : String) :
    (run settings calls).table.get? name = calls.reverse.findSome? fun declaration =>
      if declaration.name = name then (declaration.settled settings).toOption else none := by
  induction calls using List.reverseRecOn with
  | nil => rfl
  | append_singleton calls declaration ih =>
      rw [run_concat, get?_attempt, settings_run, ih, List.reverse_append, List.reverse_singleton,
        List.singleton_append, List.findSome?_cons]
      cases (if declaration.name = name then (declaration.settled settings).toOption else none) <;>
        rfl

/-- The model is what became of the last declaration under a name that was not refused. -/
def LastAccepted (settings : Settings) (calls : List Model) (name : String) (model : Model) :
    Prop :=
  ∃ earlier declaration later, calls = earlier ++ declaration :: later ∧
    declaration.name = name ∧ declaration.settled settings = .ok model ∧
    ∀ other ∈ later, other.name = name → ∃ error, other.settled settings = .error error

theorem toOption_settled_eq_none_iff :
    (declaration.settled settings).toOption = none ↔
      ∃ error, declaration.settled settings = .error error := by
  cases declaration.settled settings <;> simp [Except.toOption]

theorem toOption_settled_eq_some_iff :
    (declaration.settled settings).toOption = some model ↔
      declaration.settled settings = .ok model := by
  cases declaration.settled settings <;> simp [Except.toOption]

theorem lastAccepted_iff :
    LastAccepted settings calls name model ↔ (run settings calls).table.get? name = some model := by
  rw [get?_run, List.findSome?_eq_some_iff]
  constructor
  · rintro ⟨earlier, declaration, later, split, named, accepted, refused⟩
    refine ⟨later.reverse, declaration, earlier.reverse, by simp [split], ?_, ?_⟩
    · rw [if_pos named, toOption_settled_eq_some_iff, accepted]
    · intro other member
      by_cases same : other.name = name
      · rw [if_pos same, toOption_settled_eq_none_iff]
        exact refused other (List.mem_reverse.mp member) same
      · exact if_neg same
  · rintro ⟨behind, declaration, before, split, chosen, passed⟩
    obtain ⟨named, kept⟩ := Option.ite_none_right_eq_some.mp chosen
    refine ⟨before.reverse, declaration, behind.reverse, ?_, named,
      toOption_settled_eq_some_iff.mp kept, ?_⟩
    · rw [← List.reverse_reverse calls, split]
      simp
    · intro other member same
      have refused := passed other (List.mem_reverse.mp member)
      rw [if_pos same, toOption_settled_eq_none_iff] at refused
      exact refused

theorem model_eq_ok_iff :
    registry.model name = .ok model ↔ registry.table.get? name = some model := by
  rw [Registry.model]
  cases registry.table.get? name <;> simp

theorem model_eq_error_of_absent (absent : registry.table.get? name = none) :
    registry.model name = .error (.unknownModel name) := by
  rw [Registry.model, absent]

/-- A model stands under its own name and is what became of one of the calls. -/
theorem declared_of_run (found : (run settings calls).table.get? name = some model) :
    model.name = name ∧ ∃ declaration ∈ calls, declaration.settled settings = .ok model := by
  obtain ⟨earlier, declaration, later, split, named, accepted, _⟩ := lastAccepted_iff.mpr found
  have member : declaration ∈ calls := by simp [split]
  refine ⟨?_, declaration, member, accepted⟩
  rw [Model.eq_of_settled accepted]
  exact named

theorem mem_models_run :
    model ∈ (run settings calls).models ↔
      (run settings calls).table.get? model.name = some model := by
  constructor
  · intro member
    obtain ⟨⟨name, held⟩, listed, same⟩ := List.mem_map.mp member
    cases same
    have found := SortedTable.get?_eq_some_iff.mpr listed
    rwa [(declared_of_run found).1]
  · intro found
    exact List.mem_map.mpr ⟨_, SortedTable.get?_eq_some_iff.mp found, rfl⟩

theorem names_run (settings : Settings) (calls : List Model) :
    (run settings calls).models.map (·.name) = (run settings calls).table.keys := by
  rw [models, SortedTable.values, SortedTable.keys, List.map_map]
  exact List.map_congr_left fun entry listed =>
    (declared_of_run (SortedTable.get?_eq_some_iff.mpr listed)).1

/-- No name is taken twice. -/
theorem nodup_names_run (settings : Settings) (calls : List Model) :
    ((run settings calls).models.map (·.name)).Nodup := by
  rw [names_run]
  exact SortedTable.nodup_keys _

/-- A name stands for what became of the last declaration that was accepted under it, and for
nothing else.  A call is answered with what becomes of its declaration, which is accepted exactly
if it is settled with some key.  A refused call changes nothing, and every model that is held is
settled. -/
theorem run_holds_last (settings : Settings) (calls : List Model) :
    let registry := run settings calls
    (∀ name model, registry.model name = .ok model ↔ LastAccepted settings calls name model) ∧
      (∀ name, (∀ model, ¬ LastAccepted settings calls name model) →
        registry.model name = .error (.unknownModel name)) ∧
      (∀ declaration, (registry.attempt declaration).1 = declaration.settled settings) ∧
      (∀ declaration model : Model, declaration.settled settings = .ok model ↔
        model = { declaration with key := model.key } ∧ model.IsSettled settings) ∧
      (∀ declaration error, (registry.attempt declaration).1 = .error error →
        run settings (calls ++ [declaration]) = registry) ∧
      (∀ model, model ∈ registry.models ↔ registry.model model.name = .ok model) ∧
      ∀ model ∈ registry.models, model.IsSettled settings ∧
        ∃ declaration ∈ calls, model = { declaration with key := model.key } := by
  intro registry
  have answered (declaration : Model) :
      (registry.attempt declaration).1 = declaration.settled settings := by
    rw [answer_attempt, settings_run]
  refine ⟨fun name model => ?_, fun name none => ?_, answered,
    fun declaration model => Model.settled_eq_ok_iff, fun declaration error failed => ?_,
    fun model => ?_, fun model member => ?_⟩
  · rw [model_eq_ok_iff, lastAccepted_iff]
  · refine model_eq_error_of_absent (Option.eq_none_iff_forall_ne_some.mpr fun model found => ?_)
    exact none model (lastAccepted_iff.mpr found)
  · rw [answer_attempt] at failed
    rw [run_concat, attempt_of_refused failed]
  · rw [mem_models_run, model_eq_ok_iff]
  · obtain ⟨_, declaration, call, accepted⟩ := declared_of_run (mem_models_run.mp member)
    exact ⟨Model.isSettled_of_settled accepted, declaration, call, Model.eq_of_settled accepted⟩

def memberByName : Model where
  name := "Member"
  fields := [{ name := "name", type := .string, primaryKey := true }]

def memberByNumber : Model where
  name := "Member"
  fields := [
    { name := "number", type := .number, primaryKey := true, column := some "MemberNo" },
    { name := "name", type := .string, index := some { unique := true } }]

def memberByBoth : Model where
  name := "Member"
  fields := memberByNumber.fields ++ memberByName.fields

/-- The second definition replaces the first, and the third is refused. -/
theorem run_holds_last_member :
    (run {} [memberByName]).model "Member" = .ok { memberByName with key := "name" } ∧
      (run {} [memberByName, memberByNumber, memberByBoth]).model "Member" =
        .ok { memberByNumber with key := "MemberNo" } ∧
      ((run {} [memberByName, memberByNumber]).attempt memberByBoth).1 =
        .error (.invalidModel "Member" .severalPrimaryKeys) ∧
      run {} [memberByName, memberByNumber, memberByBoth] =
        run {} [memberByName, memberByNumber] := by
  have refused : memberByBoth.settled {} =
      .error (.invalidModel "Member" .severalPrimaryKeys) := rfl
  obtain ⟨first, _⟩ := run_holds_last {} [memberByName]
  obtain ⟨last, _⟩ := run_holds_last {} [memberByName, memberByNumber, memberByBoth]
  obtain ⟨_, _, answered, _, unchanged, _⟩ := run_holds_last {} [memberByName, memberByNumber]
  refine ⟨(first _ _).mpr ?_, (last _ _).mpr ?_, ?_, ?_⟩
  · exact ⟨[], memberByName, [], rfl, rfl, rfl, nofun⟩
  · refine ⟨[memberByName], memberByNumber, [memberByBoth], rfl, rfl, rfl, fun other member _ => ?_⟩
    rw [List.mem_singleton.mp member]
    exact ⟨_, refused⟩
  · rw [answered, refused]
  · exact unchanged memberByBoth _ ((answered memberByBoth).trans refused)

end Registry

end SqlMapper
