import Mathlib.Data.List.Forall2
import Mathlib.Data.List.Nodup
import SqlMapper.Proofs.Schema.Converging

namespace SqlMapper.Schema

/-! Tables that need nothing.

`UpToDate` describes the table of a model by its columns and by the entries of
its indexes, without grouping or comparing anything.  The difference between a
model and a table is empty for exactly these tables.
-/

open Text (sameName sameName_refl sameName_comm sameName_symm sameName_trans)

variable {model : Model} {facts : TableFacts} {stored : StoredIndex} {index : Index}
  {name : String} {entry : IndexEntry} {entries : List IndexEntry} {field : Field}

/-! Entries of one index. -/

/-- The entries of an index have positions of their own. -/
def Placed (facts : TableFacts) : Prop :=
  facts.indexes.Pairwise fun left right =>
    left.index = right.index → left.position ≠ right.position

def IndexEntry.Covers (entry : IndexEntry) (column : IndexColumn) : Prop :=
  sameName column.field entry.column = true ∧
    (entry.descending = true ↔ column.direction = .descending)

instance (entry : IndexEntry) (column : IndexColumn) : Decidable (entry.Covers column) :=
  inferInstanceAs (Decidable (_ ∧ _))

/-- The entries of one index make it what a declared index is: none of them
belongs to the key, they agree on uniqueness, and in the order of their
positions they cover its columns. -/
structure MakesUp (entries : List IndexEntry) (index : Index) : Prop where
  present : entries ≠ []
  secondary : ∀ entry ∈ entries, entry.primaryKey = false
  unique : ∀ entry ∈ entries, entry.unique = index.unique
  columns : ∃ ordered : List IndexEntry, ordered.Perm entries ∧
    (ordered.Pairwise fun left right => left.position ≤ right.position) ∧
    List.Forall₂ IndexEntry.Covers ordered index.columns

/-- An index of the table has the name of a declared one and is what that one declares. -/
def Carries (entries : List IndexEntry) (index : Index) : Prop :=
  ∃ name, sameName index.resolvedName name = true ∧
    MakesUp (entries.filter (·.index == name)) index

structure UpToDate (model : Model) (facts : TableFacts) : Prop where
  key : ∃ column ∈ facts.columns, sameName column.name model.key = true ∧
    ColumnType.normalized column.type = "INT"
  fields : ∀ field ∈ model.columns, ∃ column ∈ facts.columns,
    sameName column.name field.name = true ∧ column.nullable = field.nullable ∧
      ColumnType.normalized column.type =
        ColumnType.normalized (ColumnType.ofField field).render
  /-- Other columns are the key column or have exactly the name of the key field. -/
  others : ∀ column ∈ facts.columns,
    (∃ field ∈ model.columns, sameName column.name field.name = true) ∨
      sameName column.name model.key = true ∨ ∃ field ∈ model.keyFields, field.name = column.name
  indexes : ∀ index ∈ model.allIndexes, Carries facts.indexes index
  noOthers : ∀ entry ∈ facts.indexes, entry.primaryKey = false →
    ∃ index ∈ model.allIndexes, sameName index.resolvedName entry.index = true

theorem covers_iff {column : IndexColumn} :
    entry.Covers column ↔
      sameName column.field entry.indexColumn.field = true ∧
        column.direction = entry.indexColumn.direction := by
  unfold IndexEntry.Covers IndexEntry.indexColumn
  refine and_congr_right fun _ => ?_
  cases entry.descending <;> cases column.direction <;> simp

theorem sameColumns_iff {columns : List IndexColumn} :
    sameColumns columns (entries.map IndexEntry.indexColumn) = true ↔
      List.Forall₂ IndexEntry.Covers entries columns := by
  induction entries generalizing columns with
  | nil => cases columns <;> simp [sameColumns]
  | cons entry rest ih =>
      cases columns with
      | nil => simp [sameColumns]
      | cons column columns =>
          simp only [List.map_cons, sameColumns, Bool.and_eq_true, beq_iff_eq, ih,
            List.forall₂_cons, covers_iff]

/-- Entries with positions of their own have one order. -/
theorem entriesOf_eq (placed : Placed facts) {ordered : List IndexEntry}
    (same : ordered.Perm (facts.indexes.filter (·.index == name)))
    (sorted : ordered.Pairwise fun left right => left.position ≤ right.position) :
    entriesOf name facts.indexes = ordered := by
  have apart : ((facts.indexes.filter (·.index == name)).map (·.position)).Nodup := by
    rw [List.Nodup, List.pairwise_map]
    refine (placed.filter _).imp_of_mem fun {left right} leftMember rightMember differ => ?_
    have leftNamed := beq_iff_eq.mp (List.mem_filter.mp leftMember).2
    have rightNamed := beq_iff_eq.mp (List.mem_filter.mp rightMember).2
    exact differ (leftNamed.trans rightNamed.symm)
  have perm := perm_entriesOf name facts.indexes
  refine List.Perm.eq_of_pairwise (fun left right leftMember rightMember below above => ?_)
    (pairwise_entriesOf name facts.indexes) sorted (perm.trans same.symm)
  exact List.inj_on_of_nodup_map apart (perm.subset leftMember) (same.subset rightMember)
    (UInt32.le_antisymm below above)

theorem storedIndex?_of_present (present : entries.filter (·.index == name) ≠ []) :
    ∃ stored, storedIndex? name entries = some stored ∧ stored.name = name := by
  obtain ⟨entry, member⟩ := List.exists_mem_of_ne_nil _ present
  obtain ⟨included, named⟩ := List.mem_filter.mp member
  exact exists_storedIndex (mem_indexNames.mpr ⟨entry, included, beq_iff_eq.mp named⟩)

theorem makesUp_of_stored (consistent : Consistent facts)
    (secondary : stored ∈ secondaryIndexes facts)
    (columns : sameColumns index.columns stored.columns = true)
    (unique : index.unique = stored.unique) :
    MakesUp (facts.indexes.filter (·.index == stored.name)) index := by
  obtain ⟨found, notKey⟩ := mem_secondaryIndexes.mp secondary
  obtain ⟨first, included, named, _, uniqueOf, keyOf, columnsOf⟩ := exists_first found
  have firstMember : first ∈ facts.indexes.filter (·.index == stored.name) :=
    List.mem_filter.mpr ⟨included, beq_iff_eq.mpr named⟩
  have agree : ∀ entry ∈ facts.indexes.filter (·.index == stored.name),
      entry.unique = stored.unique ∧ entry.primaryKey = stored.primaryKey := by
    intro entry member
    obtain ⟨present, sameIndex⟩ := List.mem_filter.mp member
    obtain ⟨sameUnique, sameKey⟩ := consistent.agree entry present first included
      ((beq_iff_eq.mp sameIndex).trans named.symm)
    exact ⟨sameUnique.trans uniqueOf.symm, sameKey.trans keyOf.symm⟩
  refine ⟨List.ne_nil_of_mem firstMember, ?_, ?_, ?_⟩
  · intro entry member
    exact (agree entry member).2.trans notKey
  · intro entry member
    exact (agree entry member).1.trans unique.symm
  · rw [columnsOf, sameColumns_iff] at columns
    exact ⟨entriesOf stored.name facts.indexes, perm_entriesOf _ _,
      pairwise_entriesOf stored.name facts.indexes, columns⟩

theorem stored_of_makesUp (placed : Placed facts)
    (makes : MakesUp (facts.indexes.filter (·.index == name)) index) :
    ∃ stored ∈ secondaryIndexes facts, stored.name = name ∧
      sameColumns index.columns stored.columns = true ∧ index.unique = stored.unique := by
  obtain ⟨stored, found, named⟩ := storedIndex?_of_present makes.present
  obtain ⟨first, included, firstNamed, _, uniqueOf, keyOf, columnsOf⟩ := exists_first found
  have firstMember : first ∈ facts.indexes.filter (·.index == name) :=
    List.mem_filter.mpr ⟨included, beq_iff_eq.mpr firstNamed⟩
  obtain ⟨ordered, same, sorted, covers⟩ := makes.columns
  refine ⟨stored, mem_secondaryIndexes.mpr ⟨?_, ?_⟩, named, ?_, ?_⟩
  · rw [named]
    exact found
  · exact keyOf.trans (makes.secondary first firstMember)
  · rw [columnsOf, entriesOf_eq placed same sorted, sameColumns_iff]
    exact covers
  · exact (makes.unique first firstMember).symm.trans uniqueOf.symm

/-! Columns. -/

theorem column?_eq_some (distinct : DistinctNames (facts.columns.map (·.name)))
    {column : StoredColumn} (member : column ∈ facts.columns)
    (named : sameName column.name name = true) :
    column? name facts.columns = some column := by
  cases found : column? name facts.columns with
  | none => exact absurd named (List.find?_eq_none.mp found column member)
  | some other =>
      have otherNamed := sameName_of_column? found
      rw [eq_of_sameName distinct (List.mem_of_find?_eq_some found) member
        (sameName_trans otherNamed (sameName_symm named))]

theorem fits_iff {column : StoredColumn} :
    column.fits field = true ↔ column.nullable = field.nullable ∧
      ColumnType.normalized column.type =
        ColumnType.normalized (ColumnType.ofField field).render := by
  simp only [StoredColumn.fits, ColumnType.spelledBy, Bool.and_eq_true, beq_iff_eq]
  exact and_congr_right fun _ => eq_comm

theorem keyMismatch?_eq_none (distinct : DistinctNames (facts.columns.map (·.name))) :
    keyMismatch? model facts.columns = none ↔
      ∃ column ∈ facts.columns, sameName column.name model.key = true ∧
        ColumnType.normalized column.type = "INT" := by
  have int : ColumnType.normalized ColumnType.int.render = "INT" := by decide +kernel
  unfold keyMismatch?
  constructor
  · intro sound
    cases found : column? model.key facts.columns with
    | none => simp [found] at sound
    | some column =>
        have type : "INT" = ColumnType.normalized column.type := by
          simpa [found, ColumnType.spelledBy, int] using sound
        exact ⟨column, List.mem_of_find?_eq_some found, sameName_of_column? found, type.symm⟩
  · rintro ⟨column, member, named, type⟩
    rw [column?_eq_some distinct member named]
    simp [ColumnType.spelledBy, int, type]

theorem isDeclared_iff {column : StoredColumn} :
    isDeclared model column = true ↔
      (∃ field ∈ model.columns, sameName column.name field.name = true) ∨
        sameName column.name model.key = true ∨
          ∃ field ∈ model.keyFields, field.name = column.name := by
  have own : sameName model.key model.key = true := sameName_refl model.key
  have turned (field : Field) : sameName column.name field.name = sameName field.name column.name :=
    sameName_comm _ _
  simp only [isDeclared, Model.isKey, Model.keyFields, Bool.or_eq_true, List.any_eq_true,
    beq_iff_eq, Bool.and_eq_true, List.mem_filter, turned]
  constructor
  · rintro ((declared | same | ⟨field, member, ofKey, named⟩) | same)
    · exact .inl declared
    · exact .inr (.inl (same ▸ own))
    · exact .inr (.inr ⟨field, ⟨member, ofKey⟩, named⟩)
    · exact .inr (.inl same)
  · rintro (declared | same | ⟨field, ⟨member, ofKey⟩, named⟩)
    · exact .inl (.inl declared)
    · exact .inr same
    · exact .inl (.inr (.inr ⟨field, member, ofKey, named⟩))

/-! Nothing planned. -/

/-- Where no index is created, the table has all the declared ones. -/
theorem carries_of_unchanged (distinct : DistinctNames (model.allIndexes.map Index.resolvedName))
    (consistent : Consistent facts) (unchanged : createdIndexes model facts = [])
    (member : index ∈ model.allIndexes) : Carries facts.indexes index := by
  have left : index ∉ createdIndexes model facts := by
    rw [unchanged]
    exact List.not_mem_nil
  obtain ⟨stored, secondary, _, declared, stands⟩ := exists_kept distinct member left
  exact ⟨stored.name, (declaredIndex?_eq_some declared).2,
    makesUp_of_stored consistent secondary stands.columns stands.unique⟩

theorem declared_of_unchanged (consistent : Consistent facts)
    (unchanged : droppedNames model facts = []) (member : entry ∈ facts.indexes)
    (secondary : entry.primaryKey = false) :
    ∃ index ∈ model.allIndexes, sameName index.resolvedName entry.index = true := by
  have survives : entry ∈ survivors model facts := by
    refine List.mem_filter.mpr ⟨member, ?_⟩
    rw [unchanged]
    rfl
  rcases survivor_cases consistent survives with
    ofKey | ⟨stored, index, _, named, _, declared, _⟩
  · rw [secondary] at ofKey
    cases ofKey
  · obtain ⟨included, sameIndex⟩ := declaredIndex?_eq_some declared
    rw [named] at sameIndex
    exact ⟨index, included, sameIndex⟩

theorem upToDate_of_unchanged
    (distinct : DistinctNames (model.allIndexes.map Index.resolvedName))
    (consistent : Consistent facts) (unchanged : (diff model facts).changes = [])
    (sound : (diff model facts).mismatches = []) : UpToDate model facts := by
  rw [diff_changes] at unchanged
  simp only [List.append_eq_nil_iff, List.map_eq_nil_iff] at unchanged
  obtain ⟨⟨noDrops, noFieldChanges, noUndeclared⟩, noCreations⟩ := unchanged
  refine ⟨?_, ?_, ?_, ?_, ?_⟩
  · have noMismatch : keyMismatch? model facts.columns = none := Option.toList_eq_nil_iff.mp sound
    exact (keyMismatch?_eq_none consistent.columns).mp noMismatch
  · intro field member
    have settled := List.filterMap_eq_nil_iff.mp noFieldChanges field member
    rcases settle_cases facts field with ⟨_, change, _⟩ | ⟨column, found, fits, _⟩ |
      ⟨_, _, change, _⟩
    · rw [settled] at change
      cases change
    · exact ⟨column, List.mem_of_find?_eq_some found, sameName_of_column? found, fits_iff.mp fits⟩
    · rw [settled] at change
      cases change
  · intro column member
    rw [← isDeclared_iff]
    cases declared : isDeclared model column with
    | true => rfl
    | false =>
        have undeclared := mem_undeclaredNames.mpr ⟨column, member, declared, rfl⟩
        rw [noUndeclared] at undeclared
        cases undeclared
  · exact fun index member => carries_of_unchanged distinct consistent noCreations member
  · exact fun entry member secondary =>
      declared_of_unchanged consistent noDrops member secondary

/-! Nothing to plan. -/

theorem serves_of_makesUp (distinct : DistinctNames (model.allIndexes.map Index.resolvedName))
    (placed : Placed facts) (member : index ∈ model.allIndexes)
    (named : sameName index.resolvedName name = true)
    (makes : MakesUp (facts.indexes.filter (·.index == name)) index) :
    ∃ stored ∈ secondaryIndexes facts, stored.name = name ∧ Serves model stored index := by
  obtain ⟨stored, secondary, sameIndex, columns, unique⟩ := stored_of_makesUp placed makes
  refine ⟨stored, secondary, sameIndex, declaredIndex?_eq distinct member ?_, ?_⟩
  · rw [sameIndex]
    exact named
  · exact { columns, unique, untouched := fun _ _ => List.not_mem_nil }

theorem serving_of_upToDate (distinct : DistinctNames (model.allIndexes.map Index.resolvedName))
    (consistent : Consistent facts) (placed : Placed facts) (current : UpToDate model facts)
    (secondary : stored ∈ secondaryIndexes facts) : ∃ index, Serves model stored index := by
  obtain ⟨found, notKey⟩ := mem_secondaryIndexes.mp secondary
  obtain ⟨first, included, firstNamed, _, _, keyOf, _⟩ := exists_first found
  obtain ⟨index, member, sameIndex⟩ :=
    current.noOthers first included (keyOf.symm.trans notKey)
  obtain ⟨name, named, makes⟩ := current.indexes index member
  -- The table has no two indexes of that name, so the declared index is carried by this one.
  obtain ⟨other, otherMember⟩ := List.exists_mem_of_ne_nil _ makes.present
  obtain ⟨otherIncluded, otherNamed⟩ := List.mem_filter.mp otherMember
  have same : name = stored.name := by
    rw [← beq_iff_eq.mp otherNamed, ← firstNamed]
    refine consistent.named other otherIncluded first included ?_
    rw [beq_iff_eq.mp otherNamed]
    exact sameName_trans (sameName_symm named) sameIndex
  obtain ⟨again, againSecondary, againNamed, serves⟩ :=
    serves_of_makesUp distinct placed member named makes
  have againFound := (mem_secondaryIndexes.mp againSecondary).1
  rw [againNamed, same, found] at againFound
  cases againFound
  exact ⟨index, serves⟩

theorem unchanged_of_upToDate
    (distinct : DistinctNames (model.allIndexes.map Index.resolvedName))
    (consistent : Consistent facts) (placed : Placed facts) (current : UpToDate model facts) :
    (diff model facts).changes = [] := by
  refine changes_eq_nil ?_ ?_ ?_ ?_
  · intro field member
    obtain ⟨column, present, named, fits⟩ := current.fields field member
    exact ⟨column, column?_eq_some consistent.columns present named, fits_iff.mpr fits⟩
  · exact fun column member => isDeclared_iff.mpr (current.others column member)
  · exact fun stored secondary =>
      serving_of_upToDate distinct consistent placed current secondary
  · intro index member
    obtain ⟨name, named, makes⟩ := current.indexes index member
    obtain ⟨stored, secondary, _, serves⟩ :=
      serves_of_makesUp distinct placed member named makes
    exact ⟨stored, secondary, serves⟩

theorem diff_eq_empty (unchanged : (diff model facts).changes = [])
    (sound : keyMismatch? model facts.columns = none) :
    diff model facts = { changes := [], mismatches := [] } := by
  have mismatches : (diff model facts).mismatches = [] := Option.toList_eq_nil_iff.mpr sound
  cases difference : diff model facts with
  | mk changes others =>
      rw [difference] at unchanged mismatches
      cases unchanged
      cases mismatches
      rfl

/-- A model and a table do not differ exactly if the table is up to date. -/
theorem diff_eq_empty_iff (distinct : DistinctNames (model.allIndexes.map Index.resolvedName))
    (consistent : Consistent facts) (placed : Placed facts) :
    diff model facts = { changes := [], mismatches := [] } ↔ UpToDate model facts := by
  constructor
  · intro empty
    exact upToDate_of_unchanged distinct consistent (congrArg TableDiff.changes empty)
      (congrArg TableDiff.mismatches empty)
  · intro current
    exact diff_eq_empty (unchanged_of_upToDate distinct consistent placed current)
      ((keyMismatch?_eq_none consistent.columns).mpr current.key)

/-- The table of `goods` with other capitals, other spellings of types, and the
second entry of its index in front of the first. -/
def goodsTable : TableFacts where
  columns := [
    { name := "ID", nullable := false, type := "[INT]" },
    { name := "CODE", nullable := true, type := "varchar (40)" },
    { name := "Stock", nullable := true, type := "int" }]
  indexes := [
    { index := "BY_CODE", column := "STOCK", position := 2, descending := true },
    { index := "PK_Goods", column := "ID", position := 1, unique := true, primaryKey := true },
    { index := "BY_CODE", column := "Code", position := 1 }]

theorem consistent_goodsTable : Consistent goodsTable where
  columns := by unfold DistinctNames; decide +kernel
  named := by decide +kernel
  agree := by decide +kernel

theorem upToDate_goodsTable : UpToDate goods goodsTable where
  key := by decide +kernel
  fields := by decide +kernel
  others := by decide +kernel
  indexes := by
    intro index member
    have declared : index = goods.indexes.head (List.cons_ne_nil _ _) :=
      List.mem_singleton.mp member
    subst declared
    refine ⟨"BY_CODE", by decide +kernel, ?_⟩
    exact {
      present := by decide +kernel
      secondary := by decide +kernel
      unique := by decide +kernel
      columns := by
        -- In the order of positions the second of the two entries comes first.
        refine ⟨(goodsTable.indexes.filter (·.index == "BY_CODE")).reverse,
          List.reverse_perm _, by decide +kernel, ?_⟩
        exact .cons (by decide +kernel) (.cons (by decide +kernel) .nil) }
  noOthers := by decide +kernel

theorem diff_goodsTable : diff goods goodsTable = { changes := [], mismatches := [] } := by
  have placed : Placed goodsTable := by unfold Placed; decide +kernel
  exact (diff_eq_empty_iff unambiguous_goods.indexes consistent_goodsTable placed).mpr
    upToDate_goodsTable

end SqlMapper.Schema
