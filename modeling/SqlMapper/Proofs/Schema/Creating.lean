import SqlMapper.Proofs.Model.IndexNames
import SqlMapper.Proofs.Schema.KeyColumn
import SqlMapper.Proofs.Schema.UpToDate
import SqlMapper.Schema.Ddl

namespace SqlMapper.Schema

/-! Which declared indexes a table ends up with.

Creating an index whose name is in use does nothing, so a declared index is lost
if another one has its name.  Where the names of the declared indexes are told
apart, a new table has all of them, and so has a table after its plan.
-/

open Text (sameName lowerAscii)

variable {model : Model} {facts : TableFacts} {index : Index} {entry : IndexEntry}
  {entries : List IndexEntry} {changes : List Change} {indexes : List Index}

theorem flags_of_mem_entriesFrom {position : Nat} {columns : List IndexColumn}
    (member : entry ∈ entriesFrom index position columns) :
    entry.unique = index.unique ∧ entry.primaryKey = false := by
  induction columns generalizing position with
  | nil => cases member
  | cons column rest ih =>
      rcases List.mem_cons.mp member with same | later
      · subst same
        exact ⟨rfl, rfl⟩
      · exact ih later

theorem makesUp_created (nonempty : index.columns ≠ []) : MakesUp (createdEntries index) index where
  present := by
    cases columns : index.columns with
    | nil => exact absurd columns nonempty
    | cons column rest => simp [createdEntries, columns, entriesFrom]
  secondary := fun _ member => (flags_of_mem_entriesFrom member).2
  unique := fun _ member => (flags_of_mem_entriesFrom member).1
  columns := by
    refine ⟨createdEntries index, .refl _, ?_, ?_⟩
    · exact (sorted_entriesFrom index 1 index.columns).imp fun le => of_decide_eq_true le
    · rw [← sameColumns_iff, createdEntries, indexColumn_entriesFrom]
      exact sameColumns_refl index.columns

theorem carries_created (nonempty : ∀ index ∈ indexes, index.columns ≠ [])
    (distinct : DistinctNames (indexes.map Index.resolvedName))
    (free : ∀ index ∈ indexes, Free facts index.resolvedName) (member : index ∈ indexes) :
    Carries (applyAll (indexes.map .createIndex) facts).indexes index := by
  refine ⟨index.resolvedName, Text.sameName_refl _, ?_⟩
  have none : facts.indexes.filter (·.index == index.resolvedName) = [] :=
    filter_index_of_apart (free index member)
  rw [applyAll_createIndexes distinct free, List.filter_append, none, List.nil_append,
    filter_flatMap_createdEntries distinct member]
  exact makesUp_created (nonempty index member)

/-! After a plan. -/

theorem indexes_apply {change : Change} (onColumn : change.column? ≠ none) :
    (change.apply facts).indexes = facts.indexes := by
  cases change with
  | addColumn | alterColumn | dropColumn => rfl
  | dropIndex | createIndex => exact absurd rfl onColumn

theorem indexes_applyAll (onColumns : ∀ change ∈ changes, change.column? ≠ none) :
    (applyAll changes facts).indexes = facts.indexes := by
  induction changes generalizing facts with
  | nil => rfl
  | cons change rest ih =>
      obtain ⟨here, later⟩ := List.forall_mem_cons.mp onColumns
      rw [applyAll, List.foldl_cons, ← applyAll, ih later, indexes_apply here]

/-- Changes of columns leave the indexes to the rest of the plan. -/
theorem indexes_applyAll_diff (distinct : DistinctNames (model.allIndexes.map Index.resolvedName))
    (consistent : Consistent facts) (apart : KeyIndexApart model facts) :
    (applyAll (diff model facts).changes facts).indexes = (converged model facts).indexes := by
  have kept : (applyAll (model.columns.filterMap (fieldChange? facts.columns) ++
      (undeclaredNames model facts).map .dropColumn) (thinned model facts)).indexes =
        survivors model facts := by
    refine indexes_applyAll fun change member => ?_
    rcases List.mem_append.mp member with ofField | ofColumn
    · obtain ⟨field, _, planned⟩ := List.mem_filterMap.mp ofField
      simp [column?_of_fieldChange? planned]
    · obtain ⟨column, _, same⟩ := List.mem_map.mp ofColumn
      simp [← same, Change.column?]
  rw [diff_changes, applyAll_append, applyAll_append, applyAll_drops,
    applyAll_createIndexes (distinct_createdIndexes distinct)]
  · rw [kept]
    rfl
  · intro index created entry survives
    rw [kept] at survives
    exact survivor_not_created distinct consistent apart survives created

theorem carries_converged (nonempty : ∀ index ∈ model.allIndexes, index.columns ≠ [])
    (distinct : DistinctNames (model.allIndexes.map Index.resolvedName))
    (consistent : Consistent facts) (apart : KeyIndexApart model facts)
    (member : index ∈ model.allIndexes) : Carries (converged model facts).indexes index := by
  by_cases created : index ∈ createdIndexes model facts
  · refine ⟨index.resolvedName, Text.sameName_refl _, ?_⟩
    rw [filter_created distinct consistent apart created]
    exact makesUp_created (nonempty index member)
  · obtain ⟨stored, secondary, kept, declared, stands⟩ := exists_kept distinct member created
    obtain ⟨first, present, named, _⟩ := exists_first (mem_secondaryIndexes.mp secondary).1
    have survives := mem_survivors_of_kept consistent secondary kept present named
    refine ⟨stored.name, (declaredIndex?_eq_some declared).2, ?_⟩
    rw [← named, filter_survivor distinct consistent apart survives, named]
    exact makesUp_of_stored consistent secondary stands.columns stands.unique

/-! The statements that create indexes. -/

/-- The statement that creates a table ends with those of its indexes, as a plan
that creates all of them has them. -/
theorem createTable_suffix (ddl : Settings) (model : Model) :
    ((model.allIndexes.map Change.createIndex).flatMap fun change =>
      [.text "\n"] ++ Ddl.change ddl model change ++ [.text ";"]) <:+
        Ddl.createTable ddl model := by
  rw [List.flatMap_map]
  exact List.suffix_append _ _

/-- Two made-up names are the same exactly if the fields joined by underscores, the
kind and the leading direction are; without underscores in the fields, the
fields are then the same.  Where all names are told apart, no index is lost. -/
theorem declaredIndexes_carried {declared : Model} {settings : Settings}
    (accepted : declared.settled settings = .ok model) :
    (∀ left ∈ model.allIndexes, ∀ right ∈ model.allIndexes,
      left.name = none → right.name = none →
        (sameName left.resolvedName right.resolvedName = true ↔
          sameName left.stem right.stem = true ∧ left.kind = right.kind ∧
            left.leadingDirection = right.leadingDirection) ∧
        ((∀ field ∈ left.fields ++ right.fields, '_' ∉ field.toList) →
          sameName left.resolvedName right.resolvedName = true →
            left.fields.map lowerAscii = right.fields.map lowerAscii)) ∧
    (DistinctNames (model.allIndexes.map Index.resolvedName) →
      (∀ facts, (∀ index ∈ model.allIndexes, Free facts index.resolvedName) →
        ∀ index ∈ model.allIndexes,
          Carries (applyAll (model.allIndexes.map .createIndex) facts).indexes index) ∧
      ∀ facts, Consistent facts → KeyIndexApart model facts → ∀ index ∈ model.allIndexes,
        Carries (applyAll (diff model facts).changes facts).indexes index) ∧
    ∀ ddl, ((model.allIndexes.map Change.createIndex).flatMap fun change =>
      [.text "\n"] ++ Ddl.change ddl model change ++ [.text ";"]) <:+
        Ddl.createTable ddl model := by
  have nonempty : ∀ index ∈ model.allIndexes, index.columns ≠ [] :=
    fun index member => Model.columns_ne_nil_of_settled accepted member
  refine ⟨?_, ?_, fun ddl => createTable_suffix ddl model⟩
  · intro left _ right _ leftUnnamed rightUnnamed
    have leftName : left.resolvedName = left.madeUpName := by
      rw [Index.resolvedName, leftUnnamed]
      rfl
    have rightName : right.resolvedName = right.madeUpName := by
      rw [Index.resolvedName, rightUnnamed]
      rfl
    rw [leftName, rightName]
    refine ⟨Index.sameName_madeUpName, fun free same => ?_⟩
    obtain ⟨leftFree, rightFree⟩ := List.forall_mem_append.mp free
    exact Index.fields_of_sameName_stem leftFree rightFree (Index.sameName_madeUpName.mp same).1
  · intro distinct
    constructor
    · intro facts free index member
      exact carries_created nonempty distinct free member
    · intro facts consistent apart index member
      rw [indexes_applyAll_diff distinct consistent apart]
      exact carries_converged nonempty distinct consistent apart member

def parcel : Model where
  name := "Parcel"
  fields := [
    { name := "sender", type := .string, index := some {} }, { name := "weight", type := .number }]
  indexes := [{
    columns := [
      { field := "sender", direction := .ascending },
      { field := "weight", direction := .descending }] }]

/-- A table of parcels whose second index lists its fields the other way round. -/
def parcelTable : TableFacts where
  columns := [
    { name := "id", nullable := false, type := "int" },
    { name := "sender", nullable := true, type := "varchar(255)" },
    { name := "weight", nullable := true, type := "int" }]
  indexes := [
    { index := "PK_Parcel", column := "id", position := 1, unique := true, primaryKey := true },
    { index := "sender_weight_NONCLUSTERED_ASC_idx", column := "weight", position := 1 },
    { index := "sender_weight_NONCLUSTERED_ASC_idx", column := "sender", position := 2 }]

theorem parcel_indexes_carried :
    Carries (applyAll (diff parcel parcelTable).changes parcelTable).indexes
      { columns := [
          { field := "sender", direction := .ascending },
          { field := "weight", direction := .descending }] } := by
  have accepted : parcel.settled {} = .ok parcel := rfl
  have distinct : DistinctNames (parcel.allIndexes.map Index.resolvedName) := by
    unfold DistinctNames
    decide +kernel
  have consistent : Consistent parcelTable :=
    { columns := by unfold DistinctNames; decide +kernel
      named := by decide +kernel
      agree := by decide +kernel }
  have apart : KeyIndexApart parcel parcelTable := by
    unfold KeyIndexApart
    decide +kernel
  exact ((declaredIndexes_carried accepted).2.1 distinct).2 parcelTable consistent apart _
    (by decide)

/-! Indexes of one name. -/

theorem exists_covering {ordered : List IndexEntry} {columns : List IndexColumn}
    (covers : List.Forall₂ IndexEntry.Covers ordered columns) {column : IndexColumn}
    (member : column ∈ columns) : ∃ entry ∈ ordered, entry.Covers column := by
  induction covers with
  | nil => cases member
  | cons here _ ih =>
      rcases List.mem_cons.mp member with same | later
      · subst same
        exact ⟨_, List.mem_cons_self, here⟩
      · obtain ⟨entry, included, covered⟩ := ih later
        exact ⟨entry, List.mem_cons_of_mem _ included, covered⟩

theorem not_carries {column : IndexColumn} (member : column ∈ index.columns)
    (missing : ∀ entry ∈ entries, ¬ (entry.Covers column ∧ entry.unique = index.unique)) :
    ¬ Carries entries index := by
  rintro ⟨name, _, makes⟩
  obtain ⟨ordered, same, _, covers⟩ := makes.columns
  obtain ⟨entry, included, covered⟩ := exists_covering covers member
  have present := same.subset included
  exact missing entry (List.mem_filter.mp present).1 ⟨covered, makes.unique entry present⟩

def ascendingPair : Index where
  columns := [{ field := "a", direction := .ascending }, { field := "b", direction := .ascending }]

def mixedPair : Index where
  columns := [{ field := "a", direction := .ascending }, { field := "b", direction := .descending }]

def uniquePair : Index :=
  { ascendingPair with unique := true }

def joinedField : Index where
  columns := [{ field := "a_b", direction := .ascending }]

def crossing : Model where
  name := "Crossing"
  fields := [
    { name := "a", type := .number }, { name := "b", type := .number },
    { name := "a_b", type := .number }]
  indexes := [ascendingPair, mixedPair, uniquePair, joinedField]

/-- The table of the model before its indexes are created. -/
def crossingTable : TableFacts where
  columns := [
    { name := "id", nullable := false, type := "int" },
    { name := "a", nullable := true, type := "int" },
    { name := "b", nullable := true, type := "int" },
    { name := "a_b", nullable := true, type := "int" }]

def crossingCreated : TableFacts :=
  applyAll (crossing.allIndexes.map .createIndex) crossingTable

theorem groupIndexes_crossingCreated :
    groupIndexes (createdEntries ascendingPair) = [createdStored ascendingPair] := by
  have names : indexNames (createdEntries ascendingPair) = [ascendingPair.resolvedName] := by
    decide +kernel
  have stored : storedIndex? ascendingPair.resolvedName (createdEntries ascendingPair) =
      some (createdStored ascendingPair) :=
    storedIndex?_createdEntries (List.cons_ne_nil _ _)
  rw [groupIndexes_eq, names]
  simp [stored]

/-- Indexes that differ in a later direction, in uniqueness or in their fields have
one name.  Only the first of them is created, and nothing is planned for the
others afterwards. -/
theorem indexes_lost :
    crossing.settled {} = .ok crossing ∧
      crossing.allIndexes = [ascendingPair, mixedPair, uniquePair, joinedField] ∧
      crossing.allIndexes.map (·.name) = List.replicate 4 none ∧
      crossing.allIndexes.map Index.resolvedName =
        List.replicate 4 "a_b_NONCLUSTERED_ASC_idx" ∧
      ¬ Carries crossingCreated.indexes mixedPair ∧
      ¬ Carries crossingCreated.indexes uniquePair ∧
      ¬ Carries crossingCreated.indexes joinedField ∧
      (diff crossing crossingCreated).changes = [] := by
  have created : crossingCreated =
      { crossingTable with indexes := createdEntries ascendingPair } := by decide +kernel
  rw [created]
  refine ⟨rfl, rfl, rfl, by decide +kernel, ?_, ?_, ?_, ?_⟩
  · exact not_carries (List.mem_cons_of_mem _ List.mem_cons_self) (by decide +kernel)
  · exact not_carries List.mem_cons_self (by decide +kernel)
  · exact not_carries List.mem_cons_self (by decide +kernel)
  · unfold diff
    rw [groupIndexes_crossingCreated]
    decide +kernel

end SqlMapper.Schema
