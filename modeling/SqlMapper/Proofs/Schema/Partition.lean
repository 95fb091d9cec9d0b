import Mathlib.Data.List.Induction
import SqlMapper.Proofs.Schema.Grouping
import SqlMapper.Proofs.Sharing

namespace SqlMapper.Schema

/-! The entries shared out among the indexes.

Reading one entry more adds an index at the end if its name is new, and nothing
otherwise.  So the indexes come in the order in which their names first appear, and
as every entry belongs to the index of its name, none is lost and none is added.
-/

variable {entries rows : List IndexEntry} {name : String} {stored : StoredIndex}

/-! The order in which the names appear. -/

theorem indexNames_concat (entries : List IndexEntry) (last : IndexEntry) :
    indexNames (entries ++ [last]) =
      if last.index ∈ indexNames entries then indexNames entries
      else indexNames entries ++ [last.index] := by
  have seen : (entries.map (·.index)).contains last.index = true ↔
      last.index ∈ indexNames entries := by
    rw [List.contains_iff_mem, indexNames, List.mem_eraseDups]
  rw [indexNames, List.map_append, List.map_singleton, List.eraseDups_append, List.cons_removeAll,
    List.nil_removeAll, ← indexNames]
  by_cases known : last.index ∈ indexNames entries
  · rw [if_pos known, seen.mpr known]
    exact List.append_nil _
  · rw [if_neg known, Bool.eq_false_iff.mpr fun again => known (seen.mp again)]
    rfl

/-- Where the first entry of an index is. -/
def firstPlace (name : String) (entries : List IndexEntry) : Nat :=
  entries.findIdx (·.index == name)

theorem firstPlace_lt_length (member : name ∈ indexNames entries) :
    firstPlace name entries < entries.length := by
  obtain ⟨entry, included, named⟩ := mem_indexNames.mp member
  exact List.findIdx_lt_length_of_exists ⟨entry, included, beq_iff_eq.mpr named⟩

theorem firstPlace_append (member : name ∈ indexNames entries) (others : List IndexEntry) :
    firstPlace name (entries ++ others) = firstPlace name entries := by
  rw [firstPlace, List.findIdx_append]
  exact if_pos (firstPlace_lt_length member)

theorem length_le_firstPlace (missing : name ∉ indexNames entries) (others : List IndexEntry) :
    entries.length ≤ firstPlace name (entries ++ others) := by
  have absent : ∀ entry ∈ entries, (entry.index == name) = false := by
    intro entry included
    rw [beq_eq_false_iff_ne]
    exact fun named => missing (mem_indexNames.mpr ⟨entry, included, named⟩)
  rw [firstPlace, List.findIdx_append, List.findIdx_eq_length_of_false absent,
    if_neg (Nat.lt_irrefl _)]
  exact Nat.le_add_left _ _

theorem indexNames_in_order (entries : List IndexEntry) :
    (indexNames entries).Pairwise fun left right =>
      firstPlace left entries < firstPlace right entries := by
  induction entries using List.reverseRecOn with
  | nil => exact List.Pairwise.nil
  | append_singleton entries last earlier =>
      -- What was in order stays so: entries behind it do not move a first place.
      have kept : (indexNames entries).Pairwise fun left right =>
          firstPlace left (entries ++ [last]) < firstPlace right (entries ++ [last]) := by
        refine earlier.imp_of_mem fun leftMember rightMember before => ?_
        rw [firstPlace_append leftMember, firstPlace_append rightMember]
        exact before
      rw [indexNames_concat]
      split
      case isTrue => exact kept
      case isFalse missing =>
        refine List.pairwise_append.mpr ⟨kept, List.pairwise_singleton _ _, ?_⟩
        intro left leftMember right rightMember
        rw [List.mem_singleton.mp rightMember, firstPlace_append leftMember]
        exact Nat.lt_of_lt_of_le (firstPlace_lt_length leftMember) (length_le_firstPlace missing _)

theorem map_name_groupIndexes (entries : List IndexEntry) :
    (groupIndexes entries).map (·.name) = indexNames entries := by
  have each : ∀ name ∈ indexNames entries,
      (storedIndex? name entries).map (·.name) = some name := by
    intro name member
    obtain ⟨stored, found, same⟩ := exists_storedIndex member
    rw [found, Option.map_some, same]
  rw [groupIndexes_eq, List.map_filterMap, List.filterMap_congr each, List.filterMap_some]

/-! Sharing out. -/

theorem perm_flatMap_entriesOf (entries : List IndexEntry) :
    ((indexNames entries).flatMap fun name => entriesOf name entries).Perm entries := by
  have named := perm_of_shared (nodup_indexNames entries) IndexEntry.index
    fun entry member => mem_indexNames.mpr ⟨entry, member, rfl⟩
  exact (List.Perm.flatMap_left _ fun name _ => perm_entriesOf name entries).trans named

/-- An index is put together from entries in the order of its columns.  These are the
entries of its name by position, and at one position in the order in which they were
reported.  What holds for the whole index is said by the first entry reported. -/
structure PutTogether (entries rows : List IndexEntry) (stored : StoredIndex) : Prop where
  same : rows.Perm (entries.filter (·.index == stored.name))
  sorted : rows.Pairwise fun left right => left.position ≤ right.position
  stable : ∀ position, rows.filter (·.position == position) =
    (entries.filter (·.index == stored.name)).filter (·.position == position)
  columns : stored.columns = rows.map IndexEntry.indexColumn
  whole : ∃ first, entries.find? (·.index == stored.name) = some first ∧
    stored.unique = first.unique ∧ stored.primaryKey = first.primaryKey

theorem putTogether_of_mem (member : stored ∈ groupIndexes entries) :
    PutTogether entries (entriesOf stored.name entries) stored := by
  obtain ⟨first, chosen, same⟩ := Option.map_eq_some_iff.mp (mem_groupIndexes.mp member)
  exact {
    same := perm_entriesOf _ _
    sorted := pairwise_entriesOf _ _
    stable := filter_entriesOf _ _
    columns := congrArg StoredIndex.columns same.symm
    whole := ⟨first, chosen, congrArg StoredIndex.unique same.symm,
      congrArg StoredIndex.primaryKey same.symm⟩ }

theorem PutTogether.columns_ne_nil (together : PutTogether entries rows stored) :
    stored.columns ≠ [] := by
  obtain ⟨first, chosen, _⟩ := together.whole
  have reported : first ∈ entries.filter (·.index == stored.name) :=
    List.mem_of_mem_head? (List.head?_filter ▸ chosen)
  rw [together.columns]
  exact List.ne_nil_of_mem (List.mem_map_of_mem (together.same.mem_iff.mpr reported))

/-- What an entry says: the name of an index, a column with its direction, and the
position of the column. -/
def IndexEntry.item (entry : IndexEntry) : String × IndexColumn × UInt32 :=
  (entry.index, entry.indexColumn, entry.position)

/-- The name of an index with each of its columns and the positions of these. -/
def StoredIndex.items (stored : StoredIndex) (positions : List UInt32) :
    List (String × IndexColumn × UInt32) :=
  (stored.columns.zip positions).map (stored.name, ·)

theorem PutTogether.items_eq (together : PutTogether entries rows stored) :
    stored.items (rows.map (·.position)) = rows.map IndexEntry.item := by
  rw [StoredIndex.items, together.columns, List.zip_map', List.map_map]
  refine List.map_congr_left fun entry member => ?_
  have named := (List.mem_filter.mp (together.same.mem_iff.mp member)).2
  rw [Function.comp_apply, IndexEntry.item, beq_iff_eq.mp named]

/-- Grouping loses nothing and adds nothing.  The indexes have names of their own, stand
in the order in which these first appear, and have columns.  Each is put together from
its entries, and all their columns taken together, with names and positions, are what
the entries say, each as often as it is said. -/
theorem groupIndexes_partitions (entries : List IndexEntry) :
    ((groupIndexes entries).map (·.name)).Nodup ∧
      ((groupIndexes entries).Pairwise fun left right =>
        firstPlace left.name entries < firstPlace right.name entries) ∧
      (∀ stored ∈ groupIndexes entries, stored.columns ≠ []) ∧
      ∃ rows : StoredIndex → List IndexEntry,
        (∀ stored ∈ groupIndexes entries, PutTogether entries (rows stored) stored) ∧
          ((groupIndexes entries).flatMap fun stored =>
            stored.items ((rows stored).map (·.position))).Perm (entries.map IndexEntry.item) := by
  have together : ∀ stored ∈ groupIndexes entries,
      PutTogether entries (entriesOf stored.name entries) stored :=
    fun _ member => putTogether_of_mem member
  have inOrder := indexNames_in_order entries
  rw [← map_name_groupIndexes, List.pairwise_map] at inOrder
  have shared := (perm_flatMap_entriesOf entries).map IndexEntry.item
  rw [← map_name_groupIndexes, List.flatMap_map, List.map_flatMap] at shared
  refine ⟨List.pairwise_map.mpr (groupIndexes_names_ne entries), inOrder,
    fun stored member => (together stored member).columns_ne_nil,
    fun stored => entriesOf stored.name entries, together, ?_⟩
  rw [List.flatMap_congr fun stored member => (together stored member).items_eq]
  exact shared

-- Entries of two indexes in turn; of two at one position the first reported stays first.
example :
    groupIndexes [
        { index := "b", column := "y", position := 2, unique := true },
        { index := "a", column := "x", position := 1 },
        { index := "b", column := "z", position := 2, descending := true },
        { index := "b", column := "x", position := 1 }] = [
      { name := "b"
        columns := [⟨"x", .ascending⟩, ⟨"y", .ascending⟩, ⟨"z", .descending⟩]
        unique := true
        primaryKey := false },
      { name := "a", columns := [⟨"x", .ascending⟩], unique := false, primaryKey := false }] := by
  cbv

end SqlMapper.Schema
