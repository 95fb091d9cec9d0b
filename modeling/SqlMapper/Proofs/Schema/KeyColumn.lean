import SqlMapper.Proofs.Schema.Planning

namespace SqlMapper.Schema

/-! What a plan does to the key.

A plan touches a column through a declared field that the column does not fit,
or by dropping a column that is not declared.  Neither looks at the index of the
key: a column is left alone because the model calls it its key, and a field
counts as the key only if it is spelled exactly like it.
-/

open Text (sameName sameName_refl sameName_symm sameName_trans)

variable {model : Model} {facts : TableFacts} {name : String} {field : Field}
  {columns : List StoredColumn} {change : Change} {changes : List Change}

/-- The column that a change adds, alters or drops. -/
def Change.column? : Change → Option String
  | .addColumn field | .alterColumn field => some field.name
  | .dropColumn name => some name
  | .dropIndex _ | .createIndex _ => none

def Touches (changes : List Change) (name : String) : Prop :=
  ∃ change ∈ changes, ∃ column, change.column? = some column ∧ sameName column name = true

/-- A field has no column, or one that is not what it declares. -/
def Unfit (columns : List StoredColumn) (field : Field) : Prop :=
  ∀ column, column? field.name columns = some column → column.fits field = false

theorem touches_append {first second : List Change} :
    Touches (first ++ second) name ↔ Touches first name ∨ Touches second name := by
  simp only [Touches, List.mem_append, or_and_right, exists_or]

theorem not_touches (others : ∀ change ∈ changes, change.column? = none) :
    ¬ Touches changes name := by
  rintro ⟨change, member, column, affected, _⟩
  rw [others change member] at affected
  cases affected

theorem touches_dropColumns {names : List String} :
    Touches (names.map .dropColumn) name ↔ ∃ gone ∈ names, sameName gone name = true := by
  constructor
  · rintro ⟨change, member, column, affected, same⟩
    obtain ⟨gone, included, made⟩ := List.mem_map.mp member
    subst made
    cases affected
    exact ⟨_, included, same⟩
  · rintro ⟨gone, included, same⟩
    exact ⟨.dropColumn gone, List.mem_map_of_mem included, gone, rfl, same⟩

theorem column?_of_fieldChange? (planned : fieldChange? columns field = some change) :
    change.column? = some field.name := by
  unfold fieldChange? at planned
  split at planned
  · cases planned
    rfl
  · split at planned
    · cases planned
    · cases planned
      rfl

theorem exists_fieldChange?_iff :
    (∃ change, fieldChange? columns field = some change) ↔ Unfit columns field := by
  unfold fieldChange? Unfit
  cases found : column? field.name columns with
  | none => simp
  | some column => cases fits : column.fits field <;> simp [fits]

theorem touches_fieldChanges {fields : List Field} :
    Touches (fields.filterMap (fieldChange? columns)) name ↔
      ∃ field ∈ fields, sameName field.name name = true ∧ Unfit columns field := by
  constructor
  · rintro ⟨change, member, column, affected, same⟩
    obtain ⟨field, included, planned⟩ := List.mem_filterMap.mp member
    rw [column?_of_fieldChange? planned] at affected
    cases affected
    exact ⟨field, included, same, exists_fieldChange?_iff.mp ⟨change, planned⟩⟩
  · rintro ⟨field, included, same, unfit⟩
    obtain ⟨change, planned⟩ := exists_fieldChange?_iff.mpr unfit
    exact ⟨change, List.mem_filterMap.mpr ⟨field, included, planned⟩, field.name,
      column?_of_fieldChange? planned, same⟩

/-- A plan touches the columns of unfit fields and the undeclared columns. -/
theorem touches_diff :
    Touches (diff model facts).changes name ↔
      (∃ field ∈ model.columns, sameName field.name name = true ∧ Unfit facts.columns field) ∨
        ∃ column ∈ facts.columns, sameName column.name name = true ∧
          isDeclared model column = false := by
  have dropped : (∃ gone ∈ undeclaredNames model facts, sameName gone name = true) ↔
      ∃ column ∈ facts.columns, sameName column.name name = true ∧
        isDeclared model column = false := by
    constructor
    · rintro ⟨gone, member, same⟩
      obtain ⟨column, present, undeclared, named⟩ := mem_undeclaredNames.mp member
      subst named
      exact ⟨column, present, same, undeclared⟩
    · rintro ⟨column, present, same, undeclared⟩
      exact ⟨column.name, mem_undeclaredNames.mpr ⟨column, present, undeclared, rfl⟩, same⟩
  rw [diff_changes, touches_append, touches_append, touches_append, touches_fieldChanges,
    touches_dropColumns, dropped]
  constructor
  · rintro ((index | column) | index)
    · exact absurd index (not_touches (by simp [Change.column?]))
    · exact column
    · exact absurd index (not_touches (by simp [Change.column?]))
  · exact fun column => .inl (.inr column)

/-- The key column is declared whatever its capitals. -/
theorem isDeclared_of_key {column : StoredColumn} (key : sameName column.name model.key = true) :
    isDeclared model column = true := by
  simp only [isDeclared, key, Bool.or_true]

theorem touches_key :
    Touches (diff model facts).changes model.key ↔
      ∃ field ∈ model.columns, sameName field.name model.key = true ∧
        Unfit facts.columns field := by
  rw [touches_diff]
  constructor
  · rintro (field | ⟨column, _, key, undeclared⟩)
    · exact field
    · rw [isDeclared_of_key key] at undeclared
      cases undeclared
  · exact .inl

theorem first_of_dropIndex (dropped : .dropIndex name ∈ (diff model facts).changes) :
    ∃ first, facts.indexes.find? (·.index == name) = some first ∧ first.primaryKey = false := by
  have planned : name ∈ droppedNames model facts := by
    rw [diff_changes] at dropped
    have others (field : Field) : fieldChange? facts.columns field ≠ some (.dropIndex name) := by
      intro planned
      cases column?_of_fieldChange? planned
    simpa [others] using dropped
  obtain ⟨stored, secondary, _, named⟩ := mem_droppedNames.mp planned
  obtain ⟨found, notKey⟩ := mem_secondaryIndexes.mp secondary
  rw [named, storedIndex?, Option.map_eq_some_iff] at found
  obtain ⟨first, chosen, same⟩ := found
  subst same
  exact ⟨first, chosen, notKey⟩

/-- A plan touches the key column through a field that has its name in other
capitals and does not fit.  It touches a column of the key's index also if the
model neither declares that column nor calls it its key.  The index itself stays
if its first entry says that it is the key's. -/
theorem diff_touches_key_iff (model : Model) (facts : TableFacts) :
    (Touches (diff model facts).changes model.key ↔
      ∃ field ∈ model.fields, model.isKey field.name = false ∧
        sameName field.name model.key = true ∧ Unfit facts.columns field) ∧
    (∀ entry ∈ facts.indexes, entry.primaryKey = true →
      (Touches (diff model facts).changes entry.column ↔
        (∃ field ∈ model.columns, sameName field.name entry.column = true ∧
          Unfit facts.columns field) ∨
        ∃ column ∈ facts.columns, sameName column.name entry.column = true ∧
          isDeclared model column = false)) ∧
    ∀ entry ∈ facts.indexes, entry.primaryKey = true →
      .dropIndex entry.index ∈ (diff model facts).changes →
        ∃ first, facts.indexes.find? (·.index == entry.index) = some first ∧
          first.primaryKey = false := by
  refine ⟨?_, fun entry _ _ => touches_diff, fun entry _ _ dropped => first_of_dropIndex dropped⟩
  rw [touches_key]
  simp only [Model.columns, List.mem_filter, Bool.not_eq_true', and_assoc]

/-- What a plan that leaves the key alone does not do. -/
structure SparesKey (model : Model) (facts : TableFacts) : Prop where
  key : ¬ Touches (diff model facts).changes model.key
  covered : ∀ entry ∈ facts.indexes, entry.primaryKey = true →
    ¬ Touches (diff model facts).changes entry.column
  index : ∀ entry ∈ facts.indexes, entry.primaryKey = true →
    .dropIndex entry.index ∉ (diff model facts).changes

/-- The field `Id` of this model is not its key, whose name is `id`. -/
def subscriber : Model where
  name := "Subscriber"
  fields := [{ name := "Id", type := .number }]

def subscriberTable : TableFacts where
  columns := [{ name := "id", nullable := false, type := "int" }]

def guest : Model where
  name := "Guest"
  fields := []

/-- A table whose key is a column that the model does not declare. -/
def guestTable : TableFacts where
  columns := [{ name := "number", nullable := false, type := "int" }]
  indexes := [
    { index := "PK_Guest", column := "number", position := 1, unique := true, primaryKey := true }]

/-- The key column is altered for the field `Id`, and a column that the index of
the key covers is dropped. -/
theorem diff_may_touch_key :
    subscriber.settled {} = .ok subscriber ∧ ¬ SparesKey subscriber subscriberTable ∧
      guest.settled {} = .ok guest ∧ ¬ SparesKey guest guestTable := by
  refine ⟨rfl, fun spared => spared.key ?_, rfl, fun spared => ?_⟩
  · exact ⟨.alterColumn { name := "Id", type := .number }, by decide +kernel, "Id", rfl, by decide⟩
  · refine spared.covered _ (List.mem_singleton_self _) rfl ?_
    exact ⟨.dropColumn "number", by decide +kernel, "number", rfl, by decide⟩

end SqlMapper.Schema
