import SqlMapper.Schema.Diff

namespace SqlMapper.Schema

/-! Entries grouped by index.

The index that a name stands for depends on the entries of that name alone, and
the groups are these indexes, each of them once.
-/

variable {entries others : List IndexEntry} {name : String} {stored : StoredIndex}

def storedIndex? (name : String) (entries : List IndexEntry) : Option StoredIndex :=
  (entries.find? (·.index == name)).map fun first =>
    { name
      columns := (entriesOf name entries).map IndexEntry.indexColumn
      unique := first.unique
      primaryKey := first.primaryKey }

theorem storedIndex?_congr
    (same : entries.filter (·.index == name) = others.filter (·.index == name)) :
    storedIndex? name entries = storedIndex? name others := by
  unfold storedIndex? entriesOf
  rw [← List.head?_filter, ← List.head?_filter, same]

theorem exists_first (found : storedIndex? name entries = some stored) :
    ∃ first ∈ entries, first.index = name ∧ stored.name = name ∧
      stored.unique = first.unique ∧ stored.primaryKey = first.primaryKey ∧
      stored.columns = (entriesOf name entries).map IndexEntry.indexColumn := by
  rw [storedIndex?, Option.map_eq_some_iff] at found
  obtain ⟨first, chosen, same⟩ := found
  subst same
  refine ⟨first, List.mem_of_find?_eq_some chosen, ?_, rfl, rfl, rfl, rfl⟩
  simpa using List.find?_some chosen

theorem storedIndex?_isSome {entry : IndexEntry} (member : entry ∈ entries) :
    (storedIndex? entry.index entries).isSome = true := by
  rw [storedIndex?, Option.isSome_map, List.find?_isSome]
  exact ⟨entry, member, beq_self_eq_true _⟩

theorem groupIndexes_eq (entries : List IndexEntry) :
    groupIndexes entries = (indexNames entries).filterMap fun name => storedIndex? name entries :=
  rfl

theorem mem_indexNames : name ∈ indexNames entries ↔ ∃ entry ∈ entries, entry.index = name := by
  rw [indexNames, List.mem_eraseDups, List.mem_map]

theorem exists_storedIndex (member : name ∈ indexNames entries) :
    ∃ stored, storedIndex? name entries = some stored ∧ stored.name = name := by
  obtain ⟨entry, included, named⟩ := mem_indexNames.mp member
  obtain ⟨stored, found⟩ := Option.isSome_iff_exists.mp (storedIndex?_isSome included)
  rw [named] at found
  obtain ⟨_, _, _, same, _⟩ := exists_first found
  exact ⟨stored, found, same⟩

theorem mem_groupIndexes :
    stored ∈ groupIndexes entries ↔ storedIndex? stored.name entries = some stored := by
  rw [groupIndexes_eq, List.mem_filterMap]
  constructor
  · rintro ⟨name, _, found⟩
    obtain ⟨_, _, _, named, _⟩ := exists_first found
    rw [named]
    exact found
  · intro found
    obtain ⟨first, member, named, _⟩ := exists_first found
    exact ⟨stored.name, mem_indexNames.mpr ⟨first, member, named⟩, found⟩

theorem nodup_eraseDups : (names : List String) → names.eraseDups.Nodup
  | [] => List.nodup_nil
  | name :: rest => by
      rw [List.eraseDups_cons, List.nodup_cons]
      refine ⟨?_, nodup_eraseDups _⟩
      intro again
      rw [List.mem_eraseDups, List.mem_filter] at again
      simp at again
termination_by names => names.length
decreasing_by exact Nat.lt_succ_of_le (List.length_filter_le _ _)

theorem nodup_indexNames (entries : List IndexEntry) : (indexNames entries).Nodup :=
  nodup_eraseDups _

theorem groupIndexes_names_ne (entries : List IndexEntry) :
    (groupIndexes entries).Pairwise fun left right => left.name ≠ right.name := by
  have distinct : (indexNames entries).Pairwise (· ≠ ·) := nodup_indexNames entries
  refine distinct.filterMap (fun name => storedIndex? name entries) ?_
  intro left right different leftStored leftFound rightStored rightFound same
  obtain ⟨_, _, _, leftNamed, _⟩ := exists_first leftFound
  obtain ⟨_, _, _, rightNamed, _⟩ := exists_first rightFound
  exact different (leftNamed.symm.trans (same.trans rightNamed))

theorem mem_columns_iff (found : storedIndex? name entries = some stored) {column : IndexColumn} :
    column ∈ stored.columns ↔
      ∃ entry ∈ entries, entry.index = name ∧ entry.indexColumn = column := by
  obtain ⟨_, _, _, _, _, _, columns⟩ := exists_first found
  rw [columns, List.mem_map]
  simp only [entriesOf, List.mem_mergeSort, List.mem_filter, beq_iff_eq, and_assoc]

/-! The order of the entries of an index. -/

theorem position_le_trans (first second third : IndexEntry) :
    decide (first.position ≤ second.position) = true →
      decide (second.position ≤ third.position) = true →
        decide (first.position ≤ third.position) = true := by
  simp only [decide_eq_true_eq, UInt32.le_iff_toNat_le]
  exact Nat.le_trans

theorem position_le_total (first second : IndexEntry) :
    (decide (first.position ≤ second.position) || decide (second.position ≤ first.position)) =
      true := by
  simp only [Bool.or_eq_true, decide_eq_true_eq, UInt32.le_iff_toNat_le]
  exact Nat.le_total _ _

theorem perm_entriesOf (name : String) (entries : List IndexEntry) :
    (entriesOf name entries).Perm (entries.filter (·.index == name)) :=
  List.mergeSort_perm _ _

theorem pairwise_entriesOf (name : String) (entries : List IndexEntry) :
    (entriesOf name entries).Pairwise fun left right => left.position ≤ right.position := by
  have sorted := List.pairwise_mergeSort position_le_trans position_le_total
    (entries.filter (·.index == name))
  exact sorted.imp fun le => of_decide_eq_true le

/-- At one position the entries of an index stand as they were reported. -/
theorem filter_entriesOf (name : String) (entries : List IndexEntry) (position : UInt32) :
    (entriesOf name entries).filter (·.position == position) =
      (entries.filter (·.index == name)).filter (·.position == position) := by
  let tied := (entries.filter (·.index == name)).filter (·.position == position)
  have level : tied.Pairwise fun left right => decide (left.position ≤ right.position) = true := by
    refine List.pairwise_of_forall_mem_list fun left leftMember right rightMember => ?_
    have leftAt := beq_iff_eq.mp (List.mem_filter.mp leftMember).2
    have rightAt := beq_iff_eq.mp (List.mem_filter.mp rightMember).2
    rw [leftAt, rightAt, decide_eq_true_eq]
    exact UInt32.le_refl position
  -- Sorting keeps a sublist that is in order, and it keeps how many entries there are.
  have kept : tied.Sublist (entriesOf name entries) :=
    List.sublist_mergeSort position_le_trans position_le_total level List.filter_sublist
  have within := kept.filter (·.position == position)
  rw [List.filter_filter, List.filter_congr fun _ _ => Bool.and_self _] at within
  exact (within.eq_of_length ((perm_entriesOf name entries).filter _).length_eq.symm).symm

end SqlMapper.Schema
