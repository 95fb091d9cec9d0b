import SqlMapper.Proofs.Schema.Planning

namespace SqlMapper.Schema

/-! Carrying out a plan.

The changes of a difference are taken phase by phase: indexes are dropped, then
fields get their columns, undeclared columns go, and indexes are created.  Each
change is permitted when its turn comes.
-/

open Text (sameName sameName_refl sameName_symm sameName_trans apart_of_sameName apart_symm)

variable {model : Model} {facts : TableFacts} {stored : StoredIndex} {index : Index}
  {name : String} {entry : IndexEntry} {field : Field}

theorem columns_distinct (unambiguous : Unambiguous model) :
    DistinctNames (model.columns.map (·.name)) :=
  (List.pairwise_cons.mp unambiguous.columns).2

theorem key_apart (unambiguous : Unambiguous model) (member : field ∈ model.columns) :
    sameName field.name model.key = false :=
  apart_symm ((List.pairwise_cons.mp unambiguous.columns).1 field.name
    (List.mem_map_of_mem member))

/-! What is dropped. -/

theorem exists_entry_of_dropped (dropped : name ∈ droppedNames model facts) :
    ∃ entry ∈ facts.indexes, entry.index = name := by
  obtain ⟨stored, secondary, _, named⟩ := mem_droppedNames.mp dropped
  obtain ⟨found, _⟩ := mem_secondaryIndexes.mp secondary
  obtain ⟨entry, member, sameIndex, _⟩ := exists_first found
  exact ⟨entry, member, sameIndex.trans named⟩

theorem distinct_droppedNames (consistent : Consistent facts) :
    DistinctNames (droppedNames model facts) := by
  have different : (droppedNames model facts).Pairwise (· ≠ ·) := by
    rw [droppedNames, List.pairwise_map]
    exact ((groupIndexes_names_ne facts.indexes).filter _).filter _
  refine different.imp_of_mem fun {left right} leftDropped rightDropped apart => ?_
  obtain ⟨leftEntry, leftMember, leftNamed⟩ := exists_entry_of_dropped leftDropped
  obtain ⟨rightEntry, rightMember, rightNamed⟩ := exists_entry_of_dropped rightDropped
  cases same : sameName left right with
  | false => rfl
  | true =>
      subst leftNamed rightNamed
      exact absurd (consistent.named leftEntry leftMember rightEntry rightMember same) apart

theorem not_isDeclared_iff {column : StoredColumn} :
    isDeclared model column = false ↔
      (∀ field ∈ model.columns, sameName field.name column.name = false) ∧
        model.isKey column.name = false ∧ sameName column.name model.key = false := by
  simp only [isDeclared, Bool.or_eq_false_iff, List.any_eq_false, Bool.not_eq_true, and_assoc]

theorem undeclared_apart (undeclared : name ∈ undeclaredNames model facts) :
    (∀ field ∈ model.columns, sameName field.name name = false) ∧
      sameName name model.key = false := by
  obtain ⟨column, _, gone, named⟩ := mem_undeclaredNames.mp undeclared
  obtain ⟨fields, _, key⟩ := not_isDeclared_iff.mp gone
  subst named
  exact ⟨fields, key⟩

/-! What the surviving indexes cover. -/

theorem alteredColumns_of_change (member : field ∈ model.columns)
    (change : fieldChange? facts.columns field = some (.alterColumn field)) :
    Text.lower field.name ∈ alteredColumns model facts := by
  refine List.mem_filterMap.mpr ⟨.alterColumn field, ?_, rfl⟩
  exact List.mem_append_left _ (List.mem_filterMap.mpr ⟨field, member, change⟩)

/-- A surviving entry covers the key or a declared column that is not altered. -/
theorem survivor_covers (unambiguous : Unambiguous model) (consistent : Consistent facts)
    (apart : KeyApart model facts) (survives : entry ∈ survivors model facts) :
    sameName entry.column model.key = true ∨
      (∃ field ∈ model.columns, sameName field.name entry.column = true) ∧
        Text.lower entry.column ∉ alteredColumns model facts := by
  have member := (not_mem_droppedNames survives).1
  rcases survivor_cases consistent survives with
    ofKey | ⟨stored, index, found, named, _, declared, stands⟩
  · exact .inl (apart.covers entry member ofKey)
  · right
    have column : entry.indexColumn ∈ stored.columns :=
      (mem_columns_iff found).mpr ⟨entry, member, rfl, rfl⟩
    obtain ⟨own, included, same⟩ := exists_field_of_sameColumns stands.columns column
    obtain ⟨field, declaredField, named⟩ :=
      unambiguous.covered index (declaredIndex?_eq_some declared).1 own included
    refine ⟨⟨field, declaredField, ?_⟩, stands.untouched entry.indexColumn column⟩
    rw [named]
    exact same

theorem survivor_not_altered (unambiguous : Unambiguous model) (consistent : Consistent facts)
    (apart : KeyApart model facts) (survives : entry ∈ survivors model facts)
    (member : field ∈ model.columns)
    (change : fieldChange? facts.columns field = some (.alterColumn field)) :
    sameName entry.column field.name = false := by
  rcases survivor_covers unambiguous consistent apart survives with key | ⟨_, untouched⟩
  · exact apart_of_sameName key (key_apart unambiguous member)
  · cases covered : sameName entry.column field.name with
    | false => rfl
    | true =>
        refine absurd ?_ untouched
        rw [Text.lower_eq_of_sameName covered]
        exact alteredColumns_of_change member change

theorem survivor_not_undeclared (unambiguous : Unambiguous model) (consistent : Consistent facts)
    (apart : KeyApart model facts) (survives : entry ∈ survivors model facts)
    (undeclared : name ∈ undeclaredNames model facts) : sameName entry.column name = false := by
  obtain ⟨fields, key⟩ := undeclared_apart undeclared
  rcases survivor_covers unambiguous consistent apart survives with
    ofKey | ⟨⟨field, member, same⟩, _⟩
  · exact apart_of_sameName ofKey key
  · exact apart_of_sameName (sameName_symm same) (apart_symm (fields field member))

theorem survivor_not_created (distinct : DistinctNames (model.allIndexes.map Index.resolvedName))
    (consistent : Consistent facts) (apart : KeyIndexApart model facts)
    (survives : entry ∈ survivors model facts) (created : index ∈ createdIndexes model facts) :
    sameName entry.index index.resolvedName = false := by
  obtain ⟨declaredHere, missing⟩ := mem_createdIndexes.mp created
  rcases survivor_cases consistent survives with
    ofKey | ⟨stored, other, found, named, secondary, declared, stands⟩
  · exact apart entry (not_mem_droppedNames survives).1 ofKey index declaredHere
  · cases clash : sameName entry.index index.resolvedName with
    | false => rfl
    | true =>
        obtain ⟨declaredOther, sameOther⟩ := declaredIndex?_eq_some declared
        rw [named] at sameOther
        have same := eq_of_sameName distinct declaredOther declaredHere
          (sameName_trans sameOther clash)
        subst same
        rw [← named] at found
        exact absurd (keptName?_eq_some.mpr ⟨other, declared, stands, rfl⟩)
          (missing stored (mem_secondaryIndexes.mpr ⟨found, secondary⟩))

/-! The phases. -/

def thinned (model : Model) (facts : TableFacts) : TableFacts :=
  { facts with indexes := survivors model facts }

def fitted (model : Model) (facts : TableFacts) : TableFacts :=
  settleAll model.columns (thinned model facts)

def trimmed (model : Model) (facts : TableFacts) : TableFacts where
  columns := (fitted model facts).columns.filter fun column =>
    !(undeclaredNames model facts).any (sameName column.name ·)
  indexes := survivors model facts

theorem applyAll_drops (model : Model) (facts : TableFacts) :
    applyAll ((droppedNames model facts).map .dropIndex) facts = thinned model facts :=
  applyAll_dropIndexes (droppedNames model facts) facts

theorem applyAll_fields (unambiguous : Unambiguous model) (facts : TableFacts) :
    applyAll (model.columns.filterMap (fieldChange? facts.columns)) (thinned model facts) =
      fitted model facts :=
  applyAll_fieldChanges (columns_distinct unambiguous) fun _ _ => rfl

theorem indexes_fitted (model : Model) (facts : TableFacts) :
    (fitted model facts).indexes = survivors model facts :=
  indexes_settleAll model.columns (thinned model facts)

theorem applyAll_undeclared (model : Model) (facts : TableFacts) :
    applyAll ((undeclaredNames model facts).map .dropColumn) (fitted model facts) =
      trimmed model facts := by
  rw [applyAll_dropColumns, indexes_fitted]
  rfl

theorem exists_column_trimmed (unambiguous : Unambiguous model) (facts : TableFacts)
    (member : field ∈ model.columns) :
    ∃ column, column? field.name (trimmed model facts).columns = some column ∧
      column.fits field = true := by
  obtain ⟨column, found, fits⟩ := exists_column_settleAll (columns_distinct unambiguous) member
    (thinned model facts)
  refine ⟨column, ?_, fits⟩
  have apart : ∀ other ∈ undeclaredNames model facts, sameName other field.name = false :=
    fun other undeclared => apart_symm ((undeclared_apart undeclared).1 field member)
  exact (column?_dropColumns apart (fitted model facts).columns).trans found

theorem applyAll_before_creation (unambiguous : Unambiguous model) (facts : TableFacts) :
    applyAll ((droppedNames model facts).map .dropIndex ++
        (model.columns.filterMap (fieldChange? facts.columns) ++
          (undeclaredNames model facts).map .dropColumn)) facts = trimmed model facts := by
  rw [applyAll_append, applyAll_append, applyAll_drops, applyAll_fields unambiguous,
    applyAll_undeclared]

theorem distinct_createdIndexes
    (distinct : DistinctNames (model.allIndexes.map Index.resolvedName)) :
    DistinctNames ((createdIndexes model facts).map Index.resolvedName) :=
  distinct.sublist (List.filter_sublist.map _)

theorem executable_drops (consistent : Consistent facts) :
    Executable facts ((droppedNames model facts).map .dropIndex) := by
  refine executable_dropIndexes (distinct_droppedNames consistent) fun name dropped => ?_
  obtain ⟨entry, member, named⟩ := exists_entry_of_dropped dropped
  exact ⟨entry, member, by rw [named, sameName_refl]⟩

theorem executable_undeclared (unambiguous : Unambiguous model) (consistent : Consistent facts)
    (apart : KeyApart model facts) :
    Executable (fitted model facts) ((undeclaredNames model facts).map .dropColumn) := by
  refine executable_dropColumns (consistent.columns.sublist (List.filter_sublist.map _))
    (fun name undeclared => ?_) fun name undeclared entry survives => ?_
  · have kept := column?_settleAll (undeclared_apart undeclared).1 (thinned model facts)
    obtain ⟨column, present, _, named⟩ := mem_undeclaredNames.mp undeclared
    rw [fitted, kept, column?, List.find?_isSome]
    exact ⟨column, present, by rw [named, sameName_refl]⟩
  · rw [indexes_fitted] at survives
    exact survivor_not_undeclared unambiguous consistent apart survives undeclared

theorem executable_creations (unambiguous : Unambiguous model) (consistent : Consistent facts)
    (apart : KeyApart model facts) :
    Executable (trimmed model facts) ((createdIndexes model facts).map .createIndex) := by
  refine executable_createIndexes (distinct_createdIndexes unambiguous.indexes)
    (fun index created entry survives => ?_) fun index created column member => ?_
  · exact survivor_not_created unambiguous.indexes consistent apart.named survives created
  · obtain ⟨field, declared, named⟩ :=
      unambiguous.covered index (mem_createdIndexes.mp created).1 column member
    obtain ⟨found, present, _⟩ := exists_column_trimmed unambiguous facts declared
    rw [← named, present]
    rfl

/-- The changes of a difference can be carried out in their order. -/
theorem executable_diff (unambiguous : Unambiguous model) (consistent : Consistent facts)
    (apart : KeyApart model facts) : Executable facts (diff model facts).changes := by
  rw [diff_changes, executable_append, executable_append, executable_append, applyAll_drops,
    applyAll_fields unambiguous, applyAll_before_creation unambiguous]
  refine ⟨⟨executable_drops consistent, ?_,
    executable_undeclared unambiguous consistent apart⟩,
    executable_creations unambiguous consistent apart⟩
  exact executable_fieldChanges (columns_distinct unambiguous) (fun _ _ => rfl)
    fun field member change entry survives =>
      survivor_not_altered unambiguous consistent apart survives member change

def goods : Model where
  name := "Goods"
  fields := [
    { name := "code", type := .string, limit := some 40 }, { name := "stock", type := .number }]
  indexes := [{
    columns := [
      { field := "code", direction := .ascending }, { field := "stock", direction := .descending }]
    name := some "by_code" }]

/-- A table whose code column is too short, in other letters, and covered by an
index; the stock is missing and another column is left over. -/
def goodsFacts : TableFacts where
  columns := [
    { name := "id", nullable := false, type := "int" },
    { name := "CODE", nullable := true, type := "varchar(20)" },
    { name := "shelf", nullable := true, type := "text" }]
  indexes := [
    { index := "PK_Goods", column := "id", position := 1, unique := true, primaryKey := true },
    { index := "BY_CODE", column := "CODE", position := 1 },
    { index := "BY_CODE", column := "shelf", position := 2 }]

theorem unambiguous_goods : Unambiguous goods where
  columns := by unfold DistinctNames; decide +kernel
  indexes := by unfold DistinctNames; decide +kernel
  covered := by decide +kernel

theorem consistent_goodsFacts : Consistent goodsFacts where
  columns := by unfold DistinctNames; decide +kernel
  named := by decide +kernel
  agree := by decide +kernel

theorem keyApart_goods : KeyApart goods goodsFacts where
  covers := by decide +kernel
  named := by decide +kernel

theorem executable_diff_goods : Executable goodsFacts (diff goods goodsFacts).changes :=
  @executable_diff goods goodsFacts unambiguous_goods consistent_goodsFacts keyApart_goods

end SqlMapper.Schema
