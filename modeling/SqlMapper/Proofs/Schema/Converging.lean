import SqlMapper.Proofs.Model.Settled
import SqlMapper.Proofs.Schema.Executing

namespace SqlMapper.Schema

/-! The table after a plan.

A table whose difference has been carried out has no difference left: its fields
have columns that fit, no other columns are there, and its indexes are those
that stood for declared ones or have been created.
-/

open Text (sameName sameName_refl sameName_symm sameName_trans ne_of_apart apart_symm)

variable {model : Model} {facts : TableFacts} {stored : StoredIndex} {index : Index}
  {name : String} {entry : IndexEntry} {field : Field}

/-! Nothing left to do. -/

def Serves (model : Model) (stored : StoredIndex) (index : Index) : Prop :=
  declaredIndex? model stored = some index ∧ StandsFor [] index stored

theorem changes_eq_nil
    (fitting : ∀ field ∈ model.columns, ∃ column,
      column? field.name facts.columns = some column ∧ column.fits field = true)
    (declared : ∀ column ∈ facts.columns, isDeclared model column = true)
    (serving : ∀ stored ∈ secondaryIndexes facts, ∃ index, Serves model stored index)
    (served : ∀ index ∈ model.allIndexes, ∃ stored ∈ secondaryIndexes facts,
      Serves model stored index) :
    (diff model facts).changes = [] := by
  have fields : model.columns.filterMap (fieldChange? facts.columns) = [] := by
    refine List.filterMap_eq_nil_iff.mpr fun field member => ?_
    obtain ⟨column, found, fits⟩ := fitting field member
    simp [fieldChange?, found, fits]
  have undeclared : undeclaredNames model facts = [] := by
    refine List.eq_nil_iff_forall_not_mem.mpr fun name member => ?_
    obtain ⟨column, present, gone, _⟩ := mem_undeclaredNames.mp member
    rw [declared column present] at gone
    cases gone
  have altered : alteredColumns model facts = [] := by
    have none : (facts.columns.filter fun column => !isDeclared model column) = [] :=
      List.map_eq_nil_iff.mp undeclared
    rw [alteredColumns, columnChanges, fields, none]
    rfl
  have kept {stored : StoredIndex} {index : Index} (serves : Serves model stored index) :
      keptFor? model facts stored = some index.resolvedName := by
    rw [keptFor?, altered]
    exact keptName?_eq_some.mpr ⟨index, serves.1, serves.2, rfl⟩
  have dropped : droppedNames model facts = [] := by
    refine List.eq_nil_iff_forall_not_mem.mpr fun name member => ?_
    obtain ⟨stored, secondary, gone, _⟩ := mem_droppedNames.mp member
    obtain ⟨index, serves⟩ := serving stored secondary
    rw [kept serves] at gone
    cases gone
  have created : createdIndexes model facts = [] := by
    refine List.eq_nil_iff_forall_not_mem.mpr fun index member => ?_
    obtain ⟨included, missing⟩ := mem_createdIndexes.mp member
    obtain ⟨stored, secondary, serves⟩ := served index included
    exact missing stored secondary (kept serves)
  rw [diff_changes, dropped, fields, undeclared, created]
  rfl

/-! Created indexes. -/

theorem indexColumn_entriesFrom (index : Index) (position : Nat) (columns : List IndexColumn) :
    (entriesFrom index position columns).map IndexEntry.indexColumn = columns := by
  induction columns generalizing position with
  | nil => rfl
  | cons column rest ih =>
      obtain ⟨field, direction⟩ := column
      rw [entriesFrom, List.map_cons, ih]
      cases direction <;> rfl

theorem position_of_mem_entriesFrom {position : Nat} {columns : List IndexColumn}
    (member : entry ∈ entriesFrom index position columns) :
    min position 0xFFFFFFFF ≤ entry.position.toNat := by
  induction columns generalizing position with
  | nil => cases member
  | cons column rest ih =>
      rcases List.mem_cons.mp member with same | later
      · subst same
        exact Nat.le_of_eq (UInt32.toNat_ofNat_of_lt' (by
          show min position 0xFFFFFFFF < 4294967296
          omega)).symm
      · have bound := ih later
        omega

theorem sorted_entriesFrom (index : Index) (position : Nat) (columns : List IndexColumn) :
    (entriesFrom index position columns).Pairwise fun left right =>
      decide (left.position ≤ right.position) = true := by
  induction columns generalizing position with
  | nil => exact List.Pairwise.nil
  | cons column rest ih =>
      refine List.pairwise_cons.mpr ⟨fun later member => ?_, ih (position + 1)⟩
      have bound := position_of_mem_entriesFrom member
      rw [decide_eq_true_eq, UInt32.le_iff_toNat_le,
        UInt32.toNat_ofNat_of_lt' (by show min position 0xFFFFFFFF < 4294967296; omega)]
      omega

def createdStored (index : Index) : StoredIndex where
  name := index.resolvedName
  columns := index.columns
  unique := index.unique
  primaryKey := false

theorem filter_createdEntries_self (index : Index) :
    (createdEntries index).filter (·.index == index.resolvedName) = createdEntries index :=
  List.filter_eq_self.mpr fun _ member => beq_iff_eq.mpr (index_of_mem_entriesFrom member)

theorem filter_index_of_apart {entries : List IndexEntry}
    (apart : ∀ entry ∈ entries, sameName entry.index name = false) :
    entries.filter (·.index == name) = [] := by
  refine List.filter_eq_nil_iff.mpr fun entry member => ?_
  rw [beq_iff_eq]
  exact ne_of_apart (apart entry member)

theorem index_of_mem_flatMap {indexes : List Index}
    (member : entry ∈ indexes.flatMap createdEntries) :
    ∃ index ∈ indexes, entry.index = index.resolvedName := by
  obtain ⟨index, included, present⟩ := List.mem_flatMap.mp member
  exact ⟨index, included, index_of_mem_entriesFrom present⟩

theorem storedIndex?_createdEntries (nonempty : index.columns ≠ []) :
    storedIndex? index.resolvedName (createdEntries index) = some (createdStored index) := by
  have ordered : entriesOf index.resolvedName (createdEntries index) = createdEntries index := by
    rw [entriesOf, filter_createdEntries_self]
    exact List.mergeSort_of_pairwise (sorted_entriesFrom index 1 index.columns)
  rw [storedIndex?, ordered, ← List.head?_filter, filter_createdEntries_self, createdEntries,
    indexColumn_entriesFrom, createdStored]
  cases columns : index.columns with
  | nil => exact absurd columns nonempty
  | cons column rest => rfl

/-- Among entries of several indexes a name finds those of its index. -/
theorem filter_flatMap_named {α : Type} {items : List α} {nameOf : α → String}
    {entries : α → List IndexEntry}
    (named : ∀ item, ∀ entry ∈ entries item, entry.index = nameOf item)
    (distinct : (items.map nameOf).Nodup) {item : α} (member : item ∈ items) :
    (items.flatMap entries).filter (·.index == nameOf item) = entries item := by
  induction items with
  | nil => cases member
  | cons first rest ih =>
      obtain ⟨absent, distinctRest⟩ := List.nodup_cons.mp distinct
      rw [List.flatMap_cons, List.filter_append]
      rcases List.mem_cons.mp member with same | later
      · subst same
        have own : (entries item).filter (·.index == nameOf item) = entries item :=
          List.filter_eq_self.mpr fun entry inside => beq_iff_eq.mpr (named item entry inside)
        have others : (rest.flatMap entries).filter (·.index == nameOf item) = [] := by
          refine List.filter_eq_nil_iff.mpr fun entry inside same => absent ?_
          obtain ⟨other, included, present⟩ := List.mem_flatMap.mp inside
          rw [← beq_iff_eq.mp same, named other entry present]
          exact List.mem_map_of_mem included
        rw [own, others, List.append_nil]
      · have others : (entries first).filter (·.index == nameOf item) = [] := by
          refine List.filter_eq_nil_iff.mpr fun entry inside same => absent ?_
          rw [← named first entry inside, beq_iff_eq.mp same]
          exact List.mem_map_of_mem later
        rw [others, List.nil_append, ih distinctRest later]

theorem filter_flatMap_createdEntries {indexes : List Index}
    (distinct : DistinctNames (indexes.map Index.resolvedName)) (member : index ∈ indexes) :
    (indexes.flatMap createdEntries).filter (·.index == index.resolvedName) =
      createdEntries index :=
  filter_flatMap_named (fun _ _ => index_of_mem_entriesFrom) (distinct.imp ne_of_apart) member

/-! The table at the end. -/

def converged (model : Model) (facts : TableFacts) : TableFacts where
  columns := (trimmed model facts).columns
  indexes := survivors model facts ++ (createdIndexes model facts).flatMap createdEntries

theorem applyAll_diff (unambiguous : Unambiguous model) (consistent : Consistent facts)
    (apart : KeyApart model facts) :
    applyAll (diff model facts).changes facts = converged model facts := by
  rw [diff_changes, applyAll_append, applyAll_before_creation unambiguous,
    applyAll_createIndexes (distinct_createdIndexes unambiguous.indexes)]
  · rfl
  · intro index created entry survives
    exact survivor_not_created unambiguous.indexes consistent apart.named survives created

theorem isDeclared_converged {column : StoredColumn}
    (member : column ∈ (converged model facts).columns) : isDeclared model column = true := by
  obtain ⟨present, kept⟩ := List.mem_filter.mp member
  cases declared : isDeclared model column with
  | true => rfl
  | false =>
      exfalso
      obtain ⟨fields, key, keyColumn⟩ := not_isDeclared_iff.mp declared
      rcases exists_name_settleAll present with ⟨field, included, named⟩ | ⟨old, was, named⟩
      · have clash := fields field included
        rw [named, sameName_refl] at clash
        cases clash
      · have undeclared : column.name ∈ undeclaredNames model facts := by
          refine mem_undeclaredNames.mpr ⟨old, was, not_isDeclared_iff.mpr ?_, named⟩
          rw [named]
          exact ⟨fields, key, keyColumn⟩
        have gone : (undeclaredNames model facts).any (sameName column.name ·) = true :=
          List.any_eq_true.mpr ⟨column.name, undeclared, sameName_refl column.name⟩
        rw [gone] at kept
        cases kept

/-- The entries of an index that survives stay what they were. -/
theorem filter_survivor (distinct : DistinctNames (model.allIndexes.map Index.resolvedName))
    (consistent : Consistent facts) (apart : KeyIndexApart model facts)
    (survives : entry ∈ survivors model facts) :
    (converged model facts).indexes.filter (·.index == entry.index) =
      facts.indexes.filter (·.index == entry.index) := by
  have left := (List.mem_filter.mp survives).2
  have none : ((createdIndexes model facts).flatMap createdEntries).filter
      (·.index == entry.index) = [] := by
    refine filter_index_of_apart fun other found => ?_
    obtain ⟨index, created, named⟩ := index_of_mem_flatMap found
    rw [named]
    exact apart_symm (survivor_not_created distinct consistent apart survives created)
  rw [converged, List.filter_append, none, List.append_nil, survivors, List.filter_filter]
  refine List.filter_congr fun other _ => ?_
  cases same : other.index == entry.index with
  | false => rfl
  | true => rw [beq_iff_eq.mp same, left, Bool.true_and]

/-- The entries under the name of a created index are those made for it. -/
theorem filter_created (distinct : DistinctNames (model.allIndexes.map Index.resolvedName))
    (consistent : Consistent facts) (apart : KeyIndexApart model facts)
    (created : index ∈ createdIndexes model facts) :
    (converged model facts).indexes.filter (·.index == index.resolvedName) =
      createdEntries index := by
  have none : (survivors model facts).filter (·.index == index.resolvedName) = [] :=
    filter_index_of_apart fun entry survives =>
      survivor_not_created distinct consistent apart survives created
  rw [converged, List.filter_append, none, List.nil_append,
    filter_flatMap_createdEntries (distinct_createdIndexes distinct) created]

theorem storedIndex?_survivor (unambiguous : Unambiguous model) (consistent : Consistent facts)
    (apart : KeyApart model facts) (survives : entry ∈ survivors model facts) :
    storedIndex? entry.index (converged model facts).indexes =
      storedIndex? entry.index facts.indexes :=
  storedIndex?_congr (filter_survivor unambiguous.indexes consistent apart.named survives)

theorem storedIndex?_created (unambiguous : Unambiguous model) (consistent : Consistent facts)
    (apart : KeyApart model facts) (nonempty : index.columns ≠ [])
    (created : index ∈ createdIndexes model facts) :
    storedIndex? index.resolvedName (converged model facts).indexes =
      some (createdStored index) := by
  rw [← storedIndex?_createdEntries nonempty]
  refine storedIndex?_congr ?_
  rw [filter_created unambiguous.indexes consistent apart.named created,
    filter_createdEntries_self]

theorem declaredIndex?_eq (distinct : DistinctNames (model.allIndexes.map Index.resolvedName))
    (member : index ∈ model.allIndexes)
    (named : sameName index.resolvedName stored.name = true) :
    declaredIndex? model stored = some index := by
  cases found : declaredIndex? model stored with
  | none =>
      have missing := List.find?_eq_none.mp found index member
      exact absurd named missing
  | some other =>
      obtain ⟨declared, otherNamed⟩ := declaredIndex?_eq_some found
      rw [eq_of_sameName distinct declared member
        (sameName_trans otherNamed (sameName_symm named))]

theorem serves_created (unambiguous : Unambiguous model) (member : index ∈ model.allIndexes) :
    Serves model (createdStored index) index where
  left := declaredIndex?_eq unambiguous.indexes member (sameName_refl index.resolvedName)
  right :=
    { columns := sameColumns_refl index.columns
      unique := rfl
      untouched := fun _ _ => List.not_mem_nil }

theorem StandsFor.anywhere {altered : List String} (stands : StandsFor altered index stored) :
    StandsFor [] index stored :=
  { stands with untouched := fun _ _ => List.not_mem_nil }

/-- The entries of an index that stands for a declared one survive. -/
theorem mem_survivors_of_kept (consistent : Consistent facts)
    (secondary : stored ∈ secondaryIndexes facts) (kept : keptFor? model facts stored = some name)
    (member : entry ∈ facts.indexes) (named : entry.index = stored.name) :
    entry ∈ survivors model facts := by
  refine List.mem_filter.mpr ⟨member, ?_⟩
  rw [Bool.not_eq_true', List.any_eq_false]
  intro dropped gone same
  -- A dropped index of the same name is the same index, but that one is kept.
  obtain ⟨other, otherSecondary, refused, otherNamed⟩ := mem_droppedNames.mp gone
  obtain ⟨otherEntry, otherMember, otherIndex⟩ := exists_entry_of_dropped gone
  have sameIndex : entry.index = otherEntry.index := by
    refine consistent.named entry member otherEntry otherMember ?_
    rw [otherIndex]
    exact same
  have found := (mem_secondaryIndexes.mp secondary).1
  have otherFound := (mem_secondaryIndexes.mp otherSecondary).1
  rw [otherNamed, ← otherIndex, ← sameIndex, named, found] at otherFound
  cases otherFound
  rw [kept] at refused
  cases refused

theorem serving_converged (accepted : ∀ index ∈ model.allIndexes, index.columns ≠ [])
    (unambiguous : Unambiguous model) (consistent : Consistent facts) (apart : KeyApart model facts)
    (secondary : stored ∈ secondaryIndexes (converged model facts)) :
    ∃ index, Serves model stored index := by
  obtain ⟨found, notKey⟩ := mem_secondaryIndexes.mp secondary
  obtain ⟨first, present, sameIndex, _⟩ := exists_first found
  rcases List.mem_append.mp present with survives | new
  · rw [← sameIndex, storedIndex?_survivor unambiguous consistent apart survives] at found
    obtain ⟨was, wasFound, _, _, primaryKey⟩ :=
      exists_stored consistent (not_mem_droppedNames survives).1
    rw [wasFound] at found
    cases found
    rcases survivor_cases consistent survives with
      ofKey | ⟨other, index, otherFound, _, _, declared, stands⟩
    · rw [primaryKey, ofKey] at notKey
      cases notKey
    · rw [wasFound] at otherFound
      cases otherFound
      exact ⟨index, declared, stands.anywhere⟩
  · obtain ⟨index, created, named⟩ := index_of_mem_flatMap new
    have declared := (mem_createdIndexes.mp created).1
    rw [← sameIndex, named,
      storedIndex?_created unambiguous consistent apart (accepted index declared) created] at found
    cases found
    exact ⟨index, serves_created unambiguous declared⟩

/-- An index of the table stands for each declared index that is not created. -/
theorem exists_kept (distinct : DistinctNames (model.allIndexes.map Index.resolvedName))
    (member : index ∈ model.allIndexes) (left : index ∉ createdIndexes model facts) :
    ∃ stored ∈ secondaryIndexes facts, keptFor? model facts stored = some index.resolvedName ∧
      declaredIndex? model stored = some index ∧
      StandsFor (alteredColumns model facts) index stored := by
  rw [mem_createdIndexes] at left
  have found : ∃ stored ∈ secondaryIndexes facts,
      keptFor? model facts stored = some index.resolvedName := by
    simpa [member] using left
  obtain ⟨stored, secondary, kept⟩ := found
  obtain ⟨other, declared, stands, sameResolved⟩ := keptName?_eq_some.mp kept
  have same := eq_of_sameName distinct (declaredIndex?_eq_some declared).1 member (by
    rw [sameResolved, sameName_refl])
  subst same
  exact ⟨stored, secondary, kept, declared, stands⟩

theorem served_converged (accepted : ∀ index ∈ model.allIndexes, index.columns ≠ [])
    (unambiguous : Unambiguous model) (consistent : Consistent facts) (apart : KeyApart model facts)
    (member : index ∈ model.allIndexes) :
    ∃ stored ∈ secondaryIndexes (converged model facts), Serves model stored index := by
  by_cases created : index ∈ createdIndexes model facts
  · refine ⟨createdStored index, mem_secondaryIndexes.mpr ⟨?_, rfl⟩,
      serves_created unambiguous member⟩
    exact storedIndex?_created unambiguous consistent apart (accepted index member) created
  · obtain ⟨stored, secondary, kept, declared, stands⟩ :=
      exists_kept unambiguous.indexes member created
    obtain ⟨was, notKey⟩ := mem_secondaryIndexes.mp secondary
    obtain ⟨entry, present, named, _⟩ := exists_first was
    have survives := mem_survivors_of_kept consistent secondary kept present named
    refine ⟨stored, mem_secondaryIndexes.mpr ⟨?_, notKey⟩, declared, stands.anywhere⟩
    rw [← named, storedIndex?_survivor unambiguous consistent apart survives, named]
    exact was

/-- A table that its plan has been applied to has no difference left. -/
theorem diff_applyAll_diff {declared : Model} {settings : Settings}
    (accepted : declared.settled settings = .ok model) (unambiguous : Unambiguous model)
    (consistent : Consistent facts) (apart : KeyApart model facts) :
    (diff model (applyAll (diff model facts).changes facts)).changes = [] := by
  have nonempty : ∀ index ∈ model.allIndexes, index.columns ≠ [] :=
    fun index member => Model.columns_ne_nil_of_settled accepted member
  rw [applyAll_diff unambiguous consistent apart]
  refine changes_eq_nil ?_ ?_ ?_ ?_
  · exact fun field member => exists_column_trimmed unambiguous facts member
  · exact fun column member => isDeclared_converged member
  · exact fun stored secondary =>
      serving_converged nonempty unambiguous consistent apart secondary
  · exact fun index member => served_converged nonempty unambiguous consistent apart member

theorem diff_applyAll_diff_goods :
    (diff goods (applyAll (diff goods goodsFacts).changes goodsFacts)).changes = [] := by
  have accepted : goods.settled {} = .ok goods := rfl
  exact @diff_applyAll_diff goods goodsFacts goods {} accepted unambiguous_goods
    consistent_goodsFacts keyApart_goods

end SqlMapper.Schema
