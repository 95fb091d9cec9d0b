import SqlMapper.Proofs.Schema.UpToDate

namespace SqlMapper.Schema

/-! Facts in any order.

A database may report columns and index entries in any order.  Look-ups by name and
the indexes that the entries make up do not depend on it, so two orders of the same
facts lead to the same difference, up to the order of what is dropped.
-/

open Text (sameName apart_symm)

variable {model : Model} {facts other : TableFacts} {stored : StoredIndex} {name : String}

/-- The same columns and the same index entries, each in some order. -/
structure Shuffled (facts other : TableFacts) : Prop where
  columns : facts.columns.Perm other.columns
  indexes : facts.indexes.Perm other.indexes

/-- The database tells the columns apart, and the entries of an index agree on what
holds for all of it and have positions of their own. -/
structure Orderly (facts : TableFacts) : Prop where
  columns : DistinctNames (facts.columns.map (·.name))
  agree : ∀ left ∈ facts.indexes, ∀ right ∈ facts.indexes, left.index = right.index →
    left.unique = right.unique ∧ left.primaryKey = right.primaryKey
  placed : Placed facts

theorem Shuffled.symm (shuffled : Shuffled facts other) : Shuffled other facts :=
  ⟨shuffled.columns.symm, shuffled.indexes.symm⟩

theorem Orderly.shuffled (orderly : Orderly facts) (shuffled : Shuffled facts other) :
    Orderly other where
  columns := by
    have names := shuffled.columns.map (·.name)
    exact (names.pairwise_iff fun apart => apart_symm apart).mp orderly.columns
  agree left leftMember right rightMember :=
    orderly.agree left (shuffled.indexes.mem_iff.mpr leftMember)
      right (shuffled.indexes.mem_iff.mpr rightMember)
  placed := by
    refine (shuffled.indexes.pairwise_iff fun differ => ?_).mp orderly.placed
    exact fun same equal => differ same.symm equal.symm

/-! Look-ups. -/

theorem column?_shuffled (orderly : Orderly facts) (shuffled : Shuffled facts other)
    (name : String) : column? name other.columns = column? name facts.columns := by
  cases found : column? name other.columns with
  | none =>
      refine (List.find?_eq_none.mpr fun column member => ?_).symm
      exact List.find?_eq_none.mp found column (shuffled.columns.mem_iff.mp member)
  | some column =>
      have member := shuffled.columns.mem_iff.mpr (List.mem_of_find?_eq_some found)
      exact (column?_eq_some orderly.columns member (sameName_of_column? found)).symm

/-- An index that some order of the entries makes up is made up by every order. -/
theorem storedIndex?_of_shuffled (orderly : Orderly facts) (shuffled : Shuffled facts other)
    (found : storedIndex? name other.indexes = some stored) :
    storedIndex? name facts.indexes = some stored := by
  obtain ⟨first, included, firstNamed, named, unique, ofKey, columns⟩ := exists_first found
  have member : first ∈ facts.indexes := shuffled.indexes.mem_iff.mpr included
  obtain ⟨again, foundAgain⟩ := Option.isSome_iff_exists.mp (storedIndex?_isSome member)
  rw [firstNamed] at foundAgain
  obtain ⟨head, headMember, headNamed, namedAgain, uniqueAgain, ofKeyAgain, columnsAgain⟩ :=
    exists_first foundAgain
  obtain ⟨sameUnique, sameKey⟩ :=
    orderly.agree head headMember first member (headNamed.trans firstNamed.symm)
  -- Positions of their own leave the entries of an index a single order.
  have entries : entriesOf name facts.indexes = entriesOf name other.indexes :=
    entriesOf_eq orderly.placed
      ((perm_entriesOf _ _).trans (shuffled.indexes.symm.filter _))
      (pairwise_entriesOf name other.indexes)
  have same : again = stored := by
    cases again
    cases stored
    simp only [StoredIndex.mk.injEq]
    exact ⟨namedAgain.trans named.symm, columnsAgain.trans (entries ▸ columns.symm),
      uniqueAgain.trans (sameUnique.trans unique.symm), ofKeyAgain.trans (sameKey.trans ofKey.symm)⟩
  rw [foundAgain, same]

theorem groupIndexes_shuffled (orderly : Orderly facts) (shuffled : Shuffled facts other) :
    (groupIndexes facts.indexes).Perm (groupIndexes other.indexes) := by
  have distinct (entries : List IndexEntry) : (groupIndexes entries).Nodup :=
    (groupIndexes_names_ne entries).imp fun different same => different (congrArg _ same)
  refine (List.perm_ext_iff_of_nodup (distinct _) (distinct _)).mpr fun stored => ?_
  rw [mem_groupIndexes, mem_groupIndexes]
  exact ⟨storedIndex?_of_shuffled (orderly.shuffled shuffled) shuffled.symm,
    storedIndex?_of_shuffled orderly shuffled⟩

theorem secondaryIndexes_shuffled (orderly : Orderly facts) (shuffled : Shuffled facts other) :
    (secondaryIndexes facts).Perm (secondaryIndexes other) :=
  (groupIndexes_shuffled orderly shuffled).filter _

/-! What is planned. -/

theorem keyMismatch?_shuffled (orderly : Orderly facts) (shuffled : Shuffled facts other)
    (model : Model) : keyMismatch? model other.columns = keyMismatch? model facts.columns := by
  rw [keyMismatch?, column?_shuffled orderly shuffled, keyMismatch?]

theorem fieldChange?_shuffled (orderly : Orderly facts) (shuffled : Shuffled facts other) :
    fieldChange? other.columns = fieldChange? facts.columns := by
  funext field
  rw [fieldChange?, column?_shuffled orderly shuffled, fieldChange?]

theorem alteredColumns_eq (model : Model) (facts : TableFacts) :
    alteredColumns model facts =
      alteredNames (model.columns.filterMap (fieldChange? facts.columns)) := by
  simp [alteredColumns, columnChanges, alteredNames, List.filterMap_map]

theorem keptFor?_shuffled (orderly : Orderly facts) (shuffled : Shuffled facts other)
    (model : Model) : keptFor? model other = keptFor? model facts := by
  funext stored
  rw [keptFor?, keptFor?, alteredColumns_eq, alteredColumns_eq,
    fieldChange?_shuffled orderly shuffled]

theorem droppedNames_shuffled (orderly : Orderly facts) (shuffled : Shuffled facts other)
    (model : Model) : (droppedNames model facts).Perm (droppedNames model other) := by
  rw [droppedNames, droppedNames, keptFor?_shuffled orderly shuffled]
  exact ((secondaryIndexes_shuffled orderly shuffled).filter _).map _

theorem undeclaredNames_shuffled (shuffled : Shuffled facts other) (model : Model) :
    (undeclaredNames model facts).Perm (undeclaredNames model other) :=
  (shuffled.columns.filter _).map _

theorem createdIndexes_shuffled (orderly : Orderly facts) (shuffled : Shuffled facts other)
    (model : Model) : createdIndexes model other = createdIndexes model facts := by
  have kept := (secondaryIndexes_shuffled orderly shuffled).filterMap (keptFor? model facts)
  rw [createdIndexes, createdIndexes, keptFor?_shuffled orderly shuffled]
  refine List.filter_congr fun index _ => ?_
  rw [Bool.eq_iff_iff]
  simp only [Bool.not_eq_true', ← Bool.not_eq_true, List.contains_iff_mem, kept.mem_iff]

/-! Phases. -/

/-- The phases of a difference, in the order in which it is carried out. -/
inductive Phase where
  | indexDrops
  | columns
  | columnDrops
  | creations
deriving DecidableEq, Repr

def Change.phase : Change → Phase
  | .dropIndex _ => .indexDrops
  | .addColumn _ | .alterColumn _ => .columns
  | .dropColumn _ => .columnDrops
  | .createIndex _ => .creations

def TableDiff.changesIn (phase : Phase) (difference : TableDiff) : List Change :=
  difference.changes.filter (·.phase = phase)

/-- The changes of a difference, phase by phase. -/
def plannedIn (model : Model) (facts : TableFacts) : Phase → List Change
  | .indexDrops => (droppedNames model facts).map .dropIndex
  | .columns => model.columns.filterMap (fieldChange? facts.columns)
  | .columnDrops => (undeclaredNames model facts).map .dropColumn
  | .creations => (createdIndexes model facts).map .createIndex

theorem phase_of_mem_plannedIn {phase : Phase} {change : Change}
    (member : change ∈ plannedIn model facts phase) : change.phase = phase := by
  cases phase with
  | indexDrops | columnDrops | creations =>
      obtain ⟨_, _, same⟩ := List.mem_map.mp member
      exact same ▸ rfl
  | columns =>
      obtain ⟨field, _, change⟩ := List.mem_filterMap.mp member
      unfold fieldChange? at change
      split at change
      · cases change
        rfl
      · split at change <;> cases change
        rfl

theorem filter_plannedIn (model : Model) (facts : TableFacts) (wanted phase : Phase) :
    (plannedIn model facts phase).filter (·.phase = wanted) =
      if phase = wanted then plannedIn model facts phase else [] := by
  split
  · next same =>
    refine List.filter_eq_self.mpr fun change member => ?_
    simp [phase_of_mem_plannedIn member, same]
  · next different =>
    refine List.filter_eq_nil_iff.mpr fun change member => ?_
    simp [phase_of_mem_plannedIn member, different]

theorem changesIn_diff (model : Model) (facts : TableFacts) (phase : Phase) :
    (diff model facts).changesIn phase = plannedIn model facts phase := by
  have phases : (diff model facts).changes =
      plannedIn model facts .indexDrops ++
        (plannedIn model facts .columns ++ plannedIn model facts .columnDrops) ++
        plannedIn model facts .creations := diff_changes model facts
  rw [TableDiff.changesIn, phases]
  simp only [List.filter_append, filter_plannedIn]
  cases phase <;> simp

/-- The same report and the same changes.  Only what is dropped may come in another
order. -/
structure TableDiff.SameUpToDrops (left right : TableDiff) : Prop where
  mismatches : left.mismatches = right.mismatches
  columns : left.changesIn .columns = right.changesIn .columns
  creations : left.changesIn .creations = right.changesIn .creations
  columnDrops : (left.changesIn .columnDrops).Perm (right.changesIn .columnDrops)
  indexDrops : (left.changesIn .indexDrops).Perm (right.changesIn .indexDrops)

/-- The order in which columns and index entries are reported decides about nothing but
the order of what is dropped. -/
theorem diff_shuffled (model : Model) (orderly : Orderly facts) (shuffled : Shuffled facts other) :
    (diff model facts).SameUpToDrops (diff model other) where
  mismatches := congrArg Option.toList (keyMismatch?_shuffled orderly shuffled model).symm
  columns := by
    rw [changesIn_diff, changesIn_diff, plannedIn, plannedIn,
      fieldChange?_shuffled orderly shuffled]
  creations := by
    rw [changesIn_diff, changesIn_diff, plannedIn, plannedIn,
      createdIndexes_shuffled orderly shuffled]
  columnDrops := by
    rw [changesIn_diff, changesIn_diff]
    exact (undeclaredNames_shuffled shuffled model).map _
  indexDrops := by
    rw [changesIn_diff, changesIn_diff]
    exact (droppedNames_shuffled orderly shuffled model).map _

/-- A table with a column to change, two that are left over, and an index to rebuild
beside two that are not declared. -/
def crowdedGoods : TableFacts where
  columns := [
    { name := "id", nullable := false, type := "int" },
    { name := "CODE", nullable := false, type := "varchar(40)" },
    { name := "stock", nullable := true, type := "int" },
    { name := "shelf", nullable := true, type := "text" },
    { name := "aisle", nullable := true, type := "int" }]
  indexes := [
    { index := "PK_Goods", column := "id", position := 1, unique := true, primaryKey := true },
    { index := "by_code", column := "CODE", position := 1 },
    { index := "by_code", column := "stock", position := 2, descending := true },
    { index := "by_place", column := "aisle", position := 1, unique := true },
    { index := "by_place", column := "stock", position := 2, unique := true },
    { index := "by_shelf", column := "shelf", position := 1 }]

/-- The same table with its columns turned round and the entries of its indexes mixed. -/
def shuffledGoods : TableFacts where
  columns := crowdedGoods.columns.reverse
  indexes := [
    { index := "by_place", column := "stock", position := 2, unique := true },
    { index := "by_code", column := "stock", position := 2, descending := true },
    { index := "by_shelf", column := "shelf", position := 1 },
    { index := "PK_Goods", column := "id", position := 1, unique := true, primaryKey := true },
    { index := "by_code", column := "CODE", position := 1 },
    { index := "by_place", column := "aisle", position := 1, unique := true }]

theorem diff_shuffled_goods :
    Orderly crowdedGoods ∧ Shuffled crowdedGoods shuffledGoods ∧
      (diff goods crowdedGoods).SameUpToDrops (diff goods shuffledGoods) ∧
      (diff goods crowdedGoods).changesIn .columnDrops =
        [.dropColumn "shelf", .dropColumn "aisle"] ∧
      (diff goods shuffledGoods).changesIn .columnDrops =
        [.dropColumn "aisle", .dropColumn "shelf"] := by
  have orderly : Orderly crowdedGoods := {
    columns := by unfold DistinctNames; decide +kernel
    agree := by decide +kernel
    placed := by unfold Placed; decide +kernel }
  have shuffled : Shuffled crowdedGoods shuffledGoods := ⟨by decide +kernel, by decide +kernel⟩
  exact ⟨orderly, shuffled, diff_shuffled goods orderly shuffled,
    by rw [changesIn_diff]; decide +kernel, by rw [changesIn_diff]; decide +kernel⟩

end SqlMapper.Schema
