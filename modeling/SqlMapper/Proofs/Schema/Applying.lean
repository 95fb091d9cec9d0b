import SqlMapper.Proofs.Text.Names
import SqlMapper.Schema.Diff

namespace SqlMapper.Schema

/-! What changes do to a table.

`Change.apply` is the table after a change and `Permitted` says when the
database takes it.  A list of changes is executable if each of them is permitted
where its turn comes.
-/

open Text (sameName sameName_refl sameName_comm apart_of_sameName apart_symm)

variable {facts : TableFacts} {columns : List StoredColumn} {name other : String} {field : Field}

def declaredColumn (field : Field) : StoredColumn where
  name := field.name
  nullable := field.nullable
  type := (ColumnType.ofField field).render

def altered (field : Field) (column : StoredColumn) : StoredColumn :=
  if sameName column.name field.name then { declaredColumn field with name := column.name }
  else column

def entriesFrom (index : Index) (position : Nat) : List IndexColumn → List IndexEntry
  | [] => []
  | column :: rest =>
    { index := index.resolvedName
      column := column.field
      position := UInt32.ofNat (min position 0xFFFFFFFF)
      unique := index.unique
      descending := column.direction = .descending } :: entriesFrom index (position + 1) rest

def createdEntries (index : Index) : List IndexEntry :=
  entriesFrom index 1 index.columns

/-- The table after a change.  Creating an index whose name is in use does nothing. -/
def Change.apply (facts : TableFacts) : Change → TableFacts
  | .addColumn field => { facts with columns := facts.columns ++ [declaredColumn field] }
  | .alterColumn field => { facts with columns := facts.columns.map (altered field) }
  | .dropColumn name =>
    { facts with columns := facts.columns.filter fun column => !sameName column.name name }
  | .dropIndex name =>
    { facts with indexes := facts.indexes.filter fun entry => !sameName entry.index name }
  | .createIndex index =>
    if facts.indexes.any fun entry => sameName entry.index index.resolvedName then facts
    else { facts with indexes := facts.indexes ++ createdEntries index }

def applyAll (changes : List Change) (facts : TableFacts) : TableFacts :=
  changes.foldl Change.apply facts

/-- No index covers a column. -/
def Uncovered (facts : TableFacts) (name : String) : Prop :=
  ∀ entry ∈ facts.indexes, sameName entry.column name = false

def Permitted (facts : TableFacts) : Change → Prop
  | .addColumn field => column? field.name facts.columns = none
  | .alterColumn field => (column? field.name facts.columns).isSome ∧ Uncovered facts field.name
  | .dropColumn name => (column? name facts.columns).isSome ∧ Uncovered facts name
  | .dropIndex name => ∃ entry ∈ facts.indexes, sameName entry.index name = true
  | .createIndex index =>
    (∀ column ∈ index.columns, (column? column.field facts.columns).isSome) ∧
      ∀ entry ∈ facts.indexes, sameName entry.index index.resolvedName = false

/-- The database takes each change when its turn comes. -/
def Executable (facts : TableFacts) : List Change → Prop
  | [] => True
  | change :: rest => Permitted facts change ∧ Executable (change.apply facts) rest

/-- Names that the database tells apart. -/
def DistinctNames (names : List String) : Prop :=
  names.Pairwise fun left right => sameName left right = false

theorem applyAll_append (first second : List Change) (facts : TableFacts) :
    applyAll (first ++ second) facts = applyAll second (applyAll first facts) :=
  List.foldl_append

theorem executable_append {first second : List Change} :
    Executable facts (first ++ second) ↔
      Executable facts first ∧ Executable (applyAll first facts) second := by
  induction first generalizing facts with
  | nil => exact ⟨fun later => ⟨trivial, later⟩, fun both => both.2⟩
  | cons change rest ih =>
      rw [List.cons_append, Executable, ih, Executable, and_assoc]
      rfl

/-! Dropping. -/

theorem filter_unnamed {α : Type} (items : List α) : items.filter (fun _ => true) = items :=
  List.filter_eq_self.mpr fun _ _ => rfl

theorem applyAll_dropIndexes (names : List String) (facts : TableFacts) :
    applyAll (names.map .dropIndex) facts =
      { facts with
        indexes := facts.indexes.filter fun entry => !names.any (sameName entry.index ·) } := by
  induction names generalizing facts with
  | nil => simp only [List.any_nil, Bool.not_false, filter_unnamed]; rfl
  | cons name rest ih =>
      rw [List.map_cons, applyAll, List.foldl_cons, ← applyAll, ih]
      simp [Change.apply, List.filter_filter, Bool.and_comm]

theorem applyAll_dropColumns (names : List String) (facts : TableFacts) :
    applyAll (names.map .dropColumn) facts =
      { facts with
        columns := facts.columns.filter fun column => !names.any (sameName column.name ·) } := by
  induction names generalizing facts with
  | nil => simp only [List.any_nil, Bool.not_false, filter_unnamed]; rfl
  | cons name rest ih =>
      rw [List.map_cons, applyAll, List.foldl_cons, ← applyAll, ih]
      simp [Change.apply, List.filter_filter, Bool.and_comm]

theorem executable_dropIndexes {names : List String} (distinct : DistinctNames names)
    (live : ∀ name ∈ names, ∃ entry ∈ facts.indexes, sameName entry.index name = true) :
    Executable facts (names.map .dropIndex) := by
  induction names generalizing facts with
  | nil => trivial
  | cons name rest ih =>
      obtain ⟨apart, distinctRest⟩ := List.pairwise_cons.mp distinct
      refine ⟨live name List.mem_cons_self, ih distinctRest fun later member => ?_⟩
      obtain ⟨entry, present, named⟩ := live later (List.mem_cons_of_mem _ member)
      refine ⟨entry, List.mem_filter.mpr ⟨present, ?_⟩, named⟩
      rw [apart_of_sameName named (apart later member)]
      rfl

theorem column?_filter {keep : StoredColumn → Bool}
    (kept : ∀ column, sameName column.name name = true → keep column = true)
    (columns : List StoredColumn) :
    column? name (columns.filter keep) = column? name columns := by
  unfold column?
  rw [List.find?_filter]
  refine congrArg (List.find? · columns) (funext fun column => ?_)
  cases named : sameName column.name name with
  | false => simp
  | true => simp [kept column named]

theorem column?_dropColumn (apart : sameName other name = false) (columns : List StoredColumn) :
    column? name (columns.filter fun column => !sameName column.name other) =
      column? name columns :=
  column?_filter (fun _ named => by rw [apart_of_sameName named apart]; rfl) columns

theorem column?_dropColumns {names : List String}
    (apart : ∀ other ∈ names, sameName other name = false) (columns : List StoredColumn) :
    column? name (columns.filter fun column => !names.any (sameName column.name ·)) =
      column? name columns := by
  refine column?_filter (fun column named => ?_) columns
  have none : names.any (sameName column.name ·) = false :=
    List.any_eq_false.mpr fun other member => by
      simp [apart_of_sameName named (apart other member)]
  rw [none]
  rfl

theorem executable_dropColumns {names : List String} (distinct : DistinctNames names)
    (present : ∀ name ∈ names, (column? name facts.columns).isSome)
    (uncovered : ∀ name ∈ names, Uncovered facts name) :
    Executable facts (names.map .dropColumn) := by
  induction names generalizing facts with
  | nil => trivial
  | cons name rest ih =>
      obtain ⟨apart, distinctRest⟩ := List.pairwise_cons.mp distinct
      refine ⟨⟨present name List.mem_cons_self, uncovered name List.mem_cons_self⟩,
        ih distinctRest (fun later member => ?_) fun later member =>
          uncovered later (List.mem_cons_of_mem _ member)⟩
      simp only [Change.apply]
      rw [column?_dropColumn (apart later member)]
      exact present later (List.mem_cons_of_mem _ member)

/-! Columns of fields. -/

theorem column?_addColumn (field : Field) (name : String) (columns : List StoredColumn) :
    column? name (columns ++ [declaredColumn field]) =
      (column? name columns).or
        (if sameName field.name name then some (declaredColumn field) else none) := by
  rw [column?, List.find?_append]
  refine congrArg _ ?_
  rw [List.find?_cons]
  cases named : sameName field.name name <;> simp [declaredColumn, named]

theorem name_altered (field : Field) (column : StoredColumn) :
    (altered field column).name = column.name := by
  unfold altered
  split <;> rfl

theorem column?_alterColumn (field : Field) (name : String) (columns : List StoredColumn) :
    column? name (columns.map (altered field)) = (column? name columns).map (altered field) := by
  rw [column?, List.find?_map]
  refine congrArg (Option.map (altered field) <| List.find? · columns) (funext fun column => ?_)
  rw [Function.comp_apply, name_altered]

theorem fits_declared (field : Field) (name : String) :
    StoredColumn.fits { declaredColumn field with name } field = true := by
  simp [StoredColumn.fits, declaredColumn, ColumnType.spelledBy]

def settle (facts : TableFacts) (field : Field) : TableFacts :=
  applyAll (fieldChange? facts.columns field).toList facts

theorem settle_cases (facts : TableFacts) (field : Field) :
    (column? field.name facts.columns = none ∧
      fieldChange? facts.columns field = some (.addColumn field) ∧
      settle facts field = Change.apply facts (.addColumn field)) ∨
    (∃ column, column? field.name facts.columns = some column ∧ column.fits field = true ∧
      fieldChange? facts.columns field = none ∧ settle facts field = facts) ∨
    (∃ column, column? field.name facts.columns = some column ∧
      fieldChange? facts.columns field = some (.alterColumn field) ∧
      settle facts field = Change.apply facts (.alterColumn field)) := by
  unfold settle fieldChange?
  cases found : column? field.name facts.columns with
  | none => exact .inl ⟨rfl, rfl, rfl⟩
  | some column =>
      cases fits : column.fits field with
      | true => exact .inr (.inl ⟨column, rfl, fits, by simp [fits], by simp [fits, applyAll]⟩)
      | false => exact .inr (.inr ⟨column, rfl, by simp [fits], by simp [fits, applyAll]⟩)

theorem sameName_of_column? {column : StoredColumn} (found : column? name columns = some column) :
    sameName column.name name = true :=
  List.find?_some (p := fun column : StoredColumn => sameName column.name name) found

theorem indexes_settle (facts : TableFacts) (field : Field) :
    (settle facts field).indexes = facts.indexes := by
  rcases settle_cases facts field with ⟨_, _, same⟩ | ⟨_, _, _, _, same⟩ | ⟨_, _, _, same⟩ <;>
    rw [same] <;> rfl

theorem exists_column_settle (facts : TableFacts) (field : Field) :
    ∃ column, column? field.name (settle facts field).columns = some column ∧
      column.fits field = true := by
  rcases settle_cases facts field with
    ⟨absent, _, same⟩ | ⟨column, found, fits, _, same⟩ | ⟨column, found, _, same⟩
  · refine ⟨declaredColumn field, ?_, fits_declared field field.name⟩
    rw [same, Change.apply, column?_addColumn, absent, sameName_refl]
    rfl
  · exact ⟨column, by rw [same, found], fits⟩
  · refine ⟨altered field column, by rw [same, Change.apply, column?_alterColumn, found]; rfl, ?_⟩
    rw [altered, if_pos (sameName_of_column? found)]
    exact fits_declared field column.name

theorem column?_settle (apart : sameName field.name name = false) (facts : TableFacts) :
    column? name (settle facts field).columns = column? name facts.columns := by
  rcases settle_cases facts field with ⟨_, _, same⟩ | ⟨_, _, _, _, same⟩ | ⟨_, _, _, same⟩
  · rw [same, Change.apply, column?_addColumn, apart]
    exact Option.or_none
  · rw [same]
  · rw [same, Change.apply, column?_alterColumn]
    cases other : column? name facts.columns with
    | none => rfl
    | some found =>
        rw [Option.map_some, altered,
          apart_of_sameName (sameName_of_column? other) apart]
        rfl

theorem exists_name_settle {column : StoredColumn}
    (member : column ∈ (settle facts field).columns) :
    column.name = field.name ∨ ∃ old ∈ facts.columns, old.name = column.name := by
  rcases settle_cases facts field with ⟨_, _, same⟩ | ⟨_, _, _, _, same⟩ | ⟨_, _, _, same⟩
  · rw [same, Change.apply] at member
    rcases List.mem_append.mp member with old | new
    · exact .inr ⟨column, old, rfl⟩
    · rw [List.mem_singleton.mp new]
      exact .inl rfl
  · rw [same] at member
    exact .inr ⟨column, member, rfl⟩
  · rw [same, Change.apply] at member
    obtain ⟨old, present, same⟩ := List.mem_map.mp member
    exact .inr ⟨old, present, by rw [← same, name_altered]⟩

def settleAll (fields : List Field) (facts : TableFacts) : TableFacts :=
  fields.foldl settle facts

theorem fieldChange?_congr {first second : List StoredColumn}
    (agree : column? field.name first = column? field.name second) :
    fieldChange? first field = fieldChange? second field := by
  rw [fieldChange?, fieldChange?, agree]

theorem filterMap_fieldChange?_cons (columns : List StoredColumn) (field : Field)
    (rest : List Field) :
    (field :: rest).filterMap (fieldChange? columns) =
      (fieldChange? columns field).toList ++ rest.filterMap (fieldChange? columns) := by
  cases change : fieldChange? columns field <;> simp [change]

variable {fields : List Field}

/-- The changes found in the columns before the first of them settle the fields
one after the other, because no field looks at the column of another. -/
theorem applyAll_fieldChanges (distinct : DistinctNames (fields.map (·.name)))
    (agree : ∀ field ∈ fields, column? field.name facts.columns = column? field.name columns) :
    applyAll (fields.filterMap (fieldChange? columns)) facts = settleAll fields facts := by
  induction fields generalizing facts with
  | nil => rfl
  | cons field rest ih =>
      obtain ⟨apart, distinctRest⟩ := List.pairwise_cons.mp distinct
      rw [filterMap_fieldChange?_cons, applyAll_append,
        ← fieldChange?_congr (agree field List.mem_cons_self)]
      refine ih distinctRest fun later member => ?_
      rw [← agree later (List.mem_cons_of_mem _ member)]
      exact column?_settle (apart later.name (List.mem_map_of_mem member)) facts

theorem executable_fieldChanges (distinct : DistinctNames (fields.map (·.name)))
    (agree : ∀ field ∈ fields, column? field.name facts.columns = column? field.name columns)
    (uncovered : ∀ field ∈ fields, fieldChange? columns field = some (.alterColumn field) →
      Uncovered facts field.name) :
    Executable facts (fields.filterMap (fieldChange? columns)) := by
  -- What the remaining fields look up stays what it was, and so do the indexes.
  induction fields generalizing facts with
  | nil => trivial
  | cons field rest ih =>
      obtain ⟨apart, distinctRest⟩ := List.pairwise_cons.mp distinct
      have same := fieldChange?_congr (agree field List.mem_cons_self)
      rw [filterMap_fieldChange?_cons, executable_append]
      constructor
      · rcases settle_cases facts field with ⟨absent, change, _⟩ | ⟨_, _, _, change, _⟩ |
          ⟨column, found, change, _⟩
        · rw [← same, change]
          exact ⟨absent, trivial⟩
        · rw [← same, change]
          trivial
        · have free := uncovered field List.mem_cons_self (same ▸ change)
          rw [← same, change]
          exact ⟨⟨by rw [found]; rfl, free⟩, trivial⟩
      · rw [← same]
        refine ih distinctRest (fun later member => ?_) fun later member change => ?_
        · rw [← agree later (List.mem_cons_of_mem _ member)]
          exact column?_settle (apart later.name (List.mem_map_of_mem member)) facts
        · have free := uncovered later (List.mem_cons_of_mem _ member) change
          intro entry live
          exact free entry (indexes_settle facts field ▸ live)

theorem indexes_settleAll (fields : List Field) (facts : TableFacts) :
    (settleAll fields facts).indexes = facts.indexes := by
  induction fields generalizing facts with
  | nil => rfl
  | cons field rest ih =>
      rw [settleAll, List.foldl_cons, ← settleAll, ih, indexes_settle]

theorem column?_settleAll (apart : ∀ field ∈ fields, sameName field.name name = false)
    (facts : TableFacts) :
    column? name (settleAll fields facts).columns = column? name facts.columns := by
  induction fields generalizing facts with
  | nil => rfl
  | cons field rest ih =>
      rw [settleAll, List.foldl_cons, ← settleAll,
        ih fun later member => apart later (List.mem_cons_of_mem _ member)]
      exact column?_settle (apart field List.mem_cons_self) facts

theorem exists_column_settleAll (distinct : DistinctNames (fields.map (·.name)))
    (member : field ∈ fields) (facts : TableFacts) :
    ∃ column, column? field.name (settleAll fields facts).columns = some column ∧
      column.fits field = true := by
  induction fields generalizing facts with
  | nil => cases member
  | cons first rest ih =>
      obtain ⟨apart, distinctRest⟩ := List.pairwise_cons.mp distinct
      rw [settleAll, List.foldl_cons, ← settleAll]
      rcases List.mem_cons.mp member with same | later
      · subst same
        rw [column?_settleAll fun later member =>
          apart_symm (apart later.name (List.mem_map_of_mem member))]
        exact exists_column_settle facts field
      · exact ih distinctRest later (settle facts first)

theorem exists_name_settleAll {column : StoredColumn}
    (member : column ∈ (settleAll fields facts).columns) :
    (∃ field ∈ fields, column.name = field.name) ∨
      ∃ old ∈ facts.columns, old.name = column.name := by
  induction fields generalizing facts with
  | nil => exact .inr ⟨column, member, rfl⟩
  | cons field rest ih =>
      rcases ih member with ⟨later, included, named⟩ | ⟨old, present, named⟩
      · exact .inl ⟨later, List.mem_cons_of_mem _ included, named⟩
      · rcases exists_name_settle present with same | ⟨older, was, same⟩
        · exact .inl ⟨field, List.mem_cons_self, named.symm.trans same⟩
        · exact .inr ⟨older, was, same.trans named⟩

/-! Creating indexes. -/

variable {index : Index} {indexes : List Index}

def Free (facts : TableFacts) (name : String) : Prop :=
  ∀ entry ∈ facts.indexes, sameName entry.index name = false

theorem index_of_mem_entriesFrom {position : Nat} {columns : List IndexColumn} {entry : IndexEntry}
    (member : entry ∈ entriesFrom index position columns) : entry.index = index.resolvedName := by
  induction columns generalizing position with
  | nil => cases member
  | cons column rest ih =>
      rcases List.mem_cons.mp member with same | later
      · rw [same]
      · exact ih later

theorem apply_createIndex (free : Free facts index.resolvedName) :
    Change.apply facts (.createIndex index) =
      { facts with indexes := facts.indexes ++ createdEntries index } := by
  have unused : (facts.indexes.any fun entry => sameName entry.index index.resolvedName) = false :=
    List.any_eq_false.mpr fun entry member => by simp [free entry member]
  rw [Change.apply, unused]
  rfl

theorem free_createIndex (free : Free facts index.resolvedName) (still : Free facts name)
    (apart : sameName index.resolvedName name = false) :
    Free (Change.apply facts (.createIndex index)) name := by
  rw [apply_createIndex free]
  intro entry member
  rcases List.mem_append.mp member with old | new
  · exact still entry old
  · rw [index_of_mem_entriesFrom new]
    exact apart

theorem applyAll_createIndexes (distinct : DistinctNames (indexes.map Index.resolvedName))
    (free : ∀ index ∈ indexes, Free facts index.resolvedName) :
    applyAll (indexes.map .createIndex) facts =
      { facts with indexes := facts.indexes ++ indexes.flatMap createdEntries } := by
  induction indexes generalizing facts with
  | nil => simp only [List.flatMap_nil, List.append_nil]; rfl
  | cons index rest ih =>
      obtain ⟨apart, distinctRest⟩ := List.pairwise_cons.mp distinct
      have unused := free index List.mem_cons_self
      rw [List.map_cons, applyAll, List.foldl_cons, ← applyAll,
        ih distinctRest fun later member => free_createIndex unused
          (free later (List.mem_cons_of_mem _ member))
          (apart later.resolvedName (List.mem_map_of_mem member)),
        apply_createIndex unused, List.flatMap_cons, List.append_assoc]

theorem executable_createIndexes (distinct : DistinctNames (indexes.map Index.resolvedName))
    (free : ∀ index ∈ indexes, Free facts index.resolvedName)
    (present : ∀ index ∈ indexes, ∀ column ∈ index.columns,
      (column? column.field facts.columns).isSome) :
    Executable facts (indexes.map .createIndex) := by
  induction indexes generalizing facts with
  | nil => trivial
  | cons index rest ih =>
      obtain ⟨apart, distinctRest⟩ := List.pairwise_cons.mp distinct
      have unused := free index List.mem_cons_self
      refine ⟨⟨present index List.mem_cons_self, unused⟩, ih distinctRest
        (fun later member => ?_) fun later member column included => ?_⟩
      · exact free_createIndex unused (free later (List.mem_cons_of_mem _ member))
          (apart later.resolvedName (List.mem_map_of_mem member))
      · rw [apply_createIndex unused]
        exact present later (List.mem_cons_of_mem _ member) column included

end SqlMapper.Schema
