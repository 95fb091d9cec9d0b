import SqlMapper.Model.Registry
import SqlMapper.Proofs.Schema.Applying
import SqlMapper.Proofs.Schema.Grouping

namespace SqlMapper.Schema

/-! What is planned for a table.

The parts of a difference have names here, and the lemmas say which indexes stay:
those of the key, and those that a declared index stands for.
-/

open Text (sameName sameName_refl apart_symm)

variable {model : Model} {facts : TableFacts} {stored : StoredIndex} {index : Index}
  {name : String} {entry : IndexEntry}

/-- The database tells the columns and the indexes of a model apart, and the
indexes cover fields that have columns. -/
structure Unambiguous (model : Model) : Prop where
  columns : DistinctNames (model.key :: model.columns.map (·.name))
  indexes : DistinctNames (model.allIndexes.map Index.resolvedName)
  covered : ∀ index ∈ model.allIndexes, ∀ column ∈ index.columns,
    ∃ field ∈ model.columns, field.name = column.field

/-- The database tells the columns and the indexes of a table apart, and the
entries of an index agree. -/
structure Consistent (facts : TableFacts) : Prop where
  columns : DistinctNames (facts.columns.map (·.name))
  named : ∀ left ∈ facts.indexes, ∀ right ∈ facts.indexes,
    sameName left.index right.index = true → left.index = right.index
  agree : ∀ left ∈ facts.indexes, ∀ right ∈ facts.indexes, left.index = right.index →
    left.unique = right.unique ∧ left.primaryKey = right.primaryKey

/-- No index of the key has the name of a declared index. -/
def KeyIndexApart (model : Model) (facts : TableFacts) : Prop :=
  ∀ entry ∈ facts.indexes, entry.primaryKey = true → ∀ index ∈ model.allIndexes,
    sameName entry.index index.resolvedName = false

/-- The index of the key covers the key column only and has a name of its own. -/
structure KeyApart (model : Model) (facts : TableFacts) : Prop where
  covers : ∀ entry ∈ facts.indexes, entry.primaryKey = true → sameName entry.column model.key = true
  named : ∀ entry ∈ facts.indexes, entry.primaryKey = true → ∀ index ∈ model.allIndexes,
    sameName entry.index index.resolvedName = false

def secondaryIndexes (facts : TableFacts) : List StoredIndex :=
  (groupIndexes facts.indexes).filter (!·.primaryKey)

def alteredColumns (model : Model) (facts : TableFacts) : List String :=
  alteredNames (columnChanges model facts.columns)

/-- The declared index that an index of the table stands for. -/
def keptFor? (model : Model) (facts : TableFacts) (stored : StoredIndex) : Option String :=
  keptName? model (alteredColumns model facts) stored

def droppedNames (model : Model) (facts : TableFacts) : List String :=
  ((secondaryIndexes facts).filter fun stored => (keptFor? model facts stored).isNone).map (·.name)

def undeclaredNames (model : Model) (facts : TableFacts) : List String :=
  (facts.columns.filter fun column => !isDeclared model column).map (·.name)

def createdIndexes (model : Model) (facts : TableFacts) : List Index :=
  model.allIndexes.filter fun index =>
    !((secondaryIndexes facts).filterMap (keptFor? model facts)).contains index.resolvedName

theorem diff_changes (model : Model) (facts : TableFacts) :
    (diff model facts).changes =
      (droppedNames model facts).map .dropIndex ++
        (model.columns.filterMap (fieldChange? facts.columns) ++
          (undeclaredNames model facts).map .dropColumn) ++
        (createdIndexes model facts).map .createIndex := by
  simp only [droppedNames, undeclaredNames, List.map_map]
  rfl

theorem mem_droppedNames :
    name ∈ droppedNames model facts ↔
      ∃ stored ∈ secondaryIndexes facts, keptFor? model facts stored = none ∧
        stored.name = name := by
  simp only [droppedNames, List.mem_map, List.mem_filter, Option.isNone_iff_eq_none, and_assoc]

theorem mem_undeclaredNames :
    name ∈ undeclaredNames model facts ↔
      ∃ column ∈ facts.columns, isDeclared model column = false ∧ column.name = name := by
  simp only [undeclaredNames, List.mem_map, List.mem_filter, Bool.not_eq_true', and_assoc]

theorem mem_createdIndexes :
    index ∈ createdIndexes model facts ↔
      index ∈ model.allIndexes ∧
        ∀ stored ∈ secondaryIndexes facts,
          keptFor? model facts stored ≠ some index.resolvedName := by
  simp only [createdIndexes, List.mem_filter, Bool.not_eq_true', ← Bool.not_eq_true,
    List.contains_iff_mem, List.mem_filterMap, not_exists, not_and, ne_eq]

theorem eq_of_sameName {α : Type} {items : List α} {nameOf : α → String}
    (distinct : DistinctNames (items.map nameOf)) {left right : α} (leftMember : left ∈ items)
    (rightMember : right ∈ items) (same : sameName (nameOf left) (nameOf right) = true) :
    left = right := by
  induction items with
  | nil => cases leftMember
  | cons item rest ih =>
      obtain ⟨apart, distinctRest⟩ := List.pairwise_cons.mp distinct
      rcases List.mem_cons.mp leftMember with leftSame | leftLater <;>
        rcases List.mem_cons.mp rightMember with rightSame | rightLater
      · rw [leftSame, rightSame]
      · subst leftSame
        rw [apart _ (List.mem_map_of_mem rightLater)] at same
        cases same
      · subst rightSame
        rw [apart_symm (apart _ (List.mem_map_of_mem leftLater))] at same
        cases same
      · exact ih distinctRest leftLater rightLater

/-! Indexes that stay. -/

structure StandsFor (altered : List String) (index : Index) (stored : StoredIndex) : Prop where
  columns : sameColumns index.columns stored.columns = true
  unique : index.unique = stored.unique
  untouched : ∀ column ∈ stored.columns, Text.lower column.field ∉ altered

theorem keptName?_eq_some {altered : List String} :
    keptName? model altered stored = some name ↔
      ∃ index, declaredIndex? model stored = some index ∧ StandsFor altered index stored ∧
        index.resolvedName = name := by
  unfold keptName?
  rw [Option.bind_eq_some_iff]
  refine exists_congr fun index => and_congr_right fun _ => ?_
  constructor
  · intro chosen
    split at chosen
    · next fits =>
      simp only [Bool.and_eq_true, beq_iff_eq, Bool.not_eq_true', List.any_eq_false,
        List.contains_iff_mem] at fits
      exact ⟨⟨fits.1.1, fits.1.2, fits.2⟩, Option.some.inj chosen⟩
    · cases chosen
  · rintro ⟨⟨columns, unique, untouched⟩, named⟩
    rw [if_pos, named]
    simp only [Bool.and_eq_true, beq_iff_eq, Bool.not_eq_true', List.any_eq_false,
      List.contains_iff_mem]
    exact ⟨⟨columns, unique⟩, untouched⟩

theorem declaredIndex?_eq_some (found : declaredIndex? model stored = some index) :
    index ∈ model.allIndexes ∧ sameName index.resolvedName stored.name = true :=
  ⟨List.mem_of_find?_eq_some found, List.find?_some
    (p := fun index : Index => sameName index.resolvedName stored.name) found⟩

theorem exists_field_of_sameColumns {lefts rights : List IndexColumn}
    (same : sameColumns lefts rights = true) {right : IndexColumn} (member : right ∈ rights) :
    ∃ left ∈ lefts, sameName left.field right.field = true := by
  induction lefts generalizing rights with
  | nil =>
      cases rights with
      | nil => cases member
      | cons first rest => cases same
  | cons left lefts ih =>
      cases rights with
      | nil => cases member
      | cons first rest =>
          simp only [sameColumns, Bool.and_eq_true] at same
          rcases List.mem_cons.mp member with here | later
          · subst here
            exact ⟨left, List.mem_cons_self, same.1.1⟩
          · obtain ⟨other, included, named⟩ := ih same.2 later
            exact ⟨other, List.mem_cons_of_mem _ included, named⟩

theorem sameColumns_refl (columns : List IndexColumn) : sameColumns columns columns = true := by
  induction columns with
  | nil => rfl
  | cons column rest ih => simp [sameColumns, sameName_refl, ih]

theorem mem_secondaryIndexes :
    stored ∈ secondaryIndexes facts ↔
      storedIndex? stored.name facts.indexes = some stored ∧ stored.primaryKey = false := by
  rw [secondaryIndexes, List.mem_filter, mem_groupIndexes, Bool.not_eq_true']

theorem exists_stored (consistent : Consistent facts) (member : entry ∈ facts.indexes) :
    ∃ stored, storedIndex? entry.index facts.indexes = some stored ∧ stored.name = entry.index ∧
      stored.unique = entry.unique ∧ stored.primaryKey = entry.primaryKey := by
  obtain ⟨stored, found⟩ := Option.isSome_iff_exists.mp (storedIndex?_isSome member)
  obtain ⟨first, present, sameIndex, named, unique, primaryKey, _⟩ := exists_first found
  obtain ⟨sameUnique, sameKey⟩ := consistent.agree first present entry member sameIndex
  exact ⟨stored, found, named, unique.trans sameUnique, primaryKey.trans sameKey⟩

def survivors (model : Model) (facts : TableFacts) : List IndexEntry :=
  facts.indexes.filter fun entry => !(droppedNames model facts).any (sameName entry.index ·)

theorem not_mem_droppedNames (survives : entry ∈ survivors model facts) :
    entry ∈ facts.indexes ∧ entry.index ∉ droppedNames model facts := by
  obtain ⟨member, kept⟩ := List.mem_filter.mp survives
  refine ⟨member, fun dropped => ?_⟩
  have gone : (droppedNames model facts).any (sameName entry.index ·) = true :=
    List.any_eq_true.mpr ⟨entry.index, dropped, sameName_refl entry.index⟩
  rw [gone] at kept
  cases kept

/-- What survives belongs to the key or to an index that stands for a declared one. -/
theorem survivor_cases (consistent : Consistent facts) (survives : entry ∈ survivors model facts) :
    entry.primaryKey = true ∨
      ∃ stored index, storedIndex? entry.index facts.indexes = some stored ∧
        stored.name = entry.index ∧ stored.primaryKey = false ∧
        declaredIndex? model stored = some index ∧
        StandsFor (alteredColumns model facts) index stored := by
  obtain ⟨member, live⟩ := not_mem_droppedNames survives
  obtain ⟨stored, found, named, _, primaryKey⟩ := exists_stored consistent member
  cases ofKey : entry.primaryKey with
  | true => exact .inl rfl
  | false =>
      right
      have secondary : stored ∈ secondaryIndexes facts :=
        mem_secondaryIndexes.mpr ⟨by rw [named]; exact found, primaryKey.trans ofKey⟩
      cases kept : keptFor? model facts stored with
      | none =>
          exact absurd (mem_droppedNames.mpr ⟨stored, secondary, kept, named⟩) live
      | some name =>
          obtain ⟨index, declared, stands, _⟩ := keptName?_eq_some.mp kept
          exact ⟨stored, index, found, named, primaryKey.trans ofKey, declared, stands⟩

end SqlMapper.Schema
