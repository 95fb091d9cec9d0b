import SqlMapper.Proofs.Schema.Planning
import SqlMapper.Proofs.Schema.TableScript

namespace SqlMapper

/-! The columns of indexes.

Indexes are declared over fields, and tables have columns.  The two have the same
names except for a key that is stored under a name of its own: an index over its
field asks for a column that the table does not have.
-/

variable {declared model : Model} {settings : Settings} {index : Index} {column : String}

namespace Model

theorem field?_isSome_of_mem {field : Field} (member : field ∈ model.fields) :
    (model.field? field.name).isSome = true :=
  List.find?_isSome.mpr ⟨field, member, beq_self_eq_true field.name⟩

theorem exists_column_of_inline (inline : index ∈ model.fieldIndexes)
    (covered : column ∈ index.fields) : ∃ field ∈ model.columns, field.name = column := by
  obtain ⟨field, member, full⟩ := List.mem_filterMap.mp inline
  obtain ⟨own, _, same⟩ := Option.map_eq_some_iff.mp full
  subst same
  exact ⟨field, member, (List.mem_singleton.mp covered).symm⟩

/-- An index that has been accepted covers fields alone. -/
theorem field?_isSome_of_indexed (accepted : declared.settled settings = .ok model)
    (member : index ∈ model.allIndexes) (covered : column ∈ index.fields) :
    (model.field? column).isSome = true := by
  rcases List.mem_append.mp member with inline | several
  · obtain ⟨field, regular, same⟩ := exists_column_of_inline inline covered
    rw [← same]
    exact field?_isSome_of_mem (List.mem_of_mem_filter regular)
  · have sound := indexesFault?_of_settled accepted
    unfold indexesFault? at sound
    split at sound
    · cases sound
    · have faultless := List.findSome?_eq_none_iff.mp sound index several
      unfold indexFault? at faultless
      split at faultless
      · cases faultless
      · have known := List.find?_eq_none.mp (Option.map_eq_none_iff.mp faultless) column covered
        cases found : model.field? column with
        | none => simp [found] at known
        | some field => rfl

end Model

namespace Schema

theorem mem_allIndexes_of_planned {facts : TableFacts}
    (planned : .createIndex index ∈ (diff model facts).changes) : index ∈ model.allIndexes := by
  rw [diff_changes] at planned
  rcases List.mem_append.mp planned with others | created
  · simp only [List.mem_append, List.mem_map, List.mem_filterMap, fieldChange?] at others
    rcases others with ⟨_, _, same⟩ | ⟨field, _, same⟩ | ⟨_, _, same⟩
    · cases same
    · split at same
      · cases same
      · split at same <;> cases same
    · cases same
  · obtain ⟨_, member, same⟩ := List.mem_map.mp created
    cases same
    exact (mem_createdIndexes.mp member).1

theorem indexed_mem_iff (accepted : declared.settled settings = .ok model)
    (member : index ∈ model.allIndexes) (covered : column ∈ index.fields) (ddl : Settings) :
    column ∈ Ddl.columnNames ddl model ↔ ¬ model.Renames column := by
  have present := Model.field?_isSome_of_indexed accepted member covered
  rw [← Model.mem_columnNames_iff accepted present, Ddl.columnNames_eq, Ddl.columnNames_eq]

/-- Creating a table lists its columns, and then the fields that each index is over.
Such a field is a column of the table, unless it is a key field whose column is called
otherwise; one that declares the index for itself always is.  A plan creates indexes
of the same kind. -/
theorem indexes_declared_iff (accepted : declared.settled settings = .ok model)
    (ddl : Settings) :
    Script.listings ((Ddl.createTable ddl model).render .sqlServer) =
      { keyword := "TABLE", names := Ddl.columnNames ddl model } ::
        model.allIndexes.map (fun index => { keyword := "INDEX", names := index.fields }) ∧
    (∀ index ∈ model.allIndexes, ∀ column ∈ index.fields,
      column ∈ Ddl.columnNames ddl model ↔ ¬ model.Renames column) ∧
    (∀ index ∈ model.fieldIndexes, ∀ column ∈ index.fields,
      column ∈ Ddl.columnNames ddl model) ∧
    ∀ facts index, .createIndex index ∈ (diff model facts).changes →
      Script.listings ((Ddl.change ddl model (.createIndex index)).render .sqlServer) =
          [{ keyword := "INDEX", names := index.fields }] ∧
        ∀ column ∈ index.fields, column ∈ Ddl.columnNames ddl model ↔ ¬ model.Renames column := by
  refine ⟨listings_createTable ddl model, fun index member column covered => ?_,
    fun index inline column covered => ?_,
    fun facts index planned => ⟨listings_createIndex ddl model index, fun column covered => ?_⟩⟩
  · exact indexed_mem_iff accepted member covered ddl
  · obtain ⟨field, regular, same⟩ := Model.exists_column_of_inline inline covered
    rw [Ddl.columnNames_eq, ← same]
    exact List.mem_cons_of_mem _ (List.mem_map_of_mem regular)
  · exact indexed_mem_iff accepted (mem_allIndexes_of_planned planned) covered ddl

def numberIndex : Index := { columns := [{ field := "number", direction := .ascending }] }

def nameIndex : Index := { columns := [{ field := "name", direction := .descending }] }

/-- A model with an index over its key, which is stored under a name of its own. -/
def numberedMember : Model :=
  { member with indexes := [numberIndex, nameIndex] }

/-- The table of the model before any index is added to it. -/
def memberTable : TableFacts where
  columns := [
    { name := "MemberNo", nullable := false, type := "int" },
    { name := "name", nullable := true, type := "varchar(255)" }]

theorem indexes_declared_name :
    numberedMember.settled {} = .ok numberedMember ∧
      "name" ∈ nameIndex.fields ∧ "name" ∈ Ddl.columnNames {} numberedMember := by
  have accepted : numberedMember.settled {} = .ok numberedMember := rfl
  have covered : "name" ∈ nameIndex.fields := List.mem_singleton.mpr rfl
  have kept : ¬ numberedMember.Renames "name" := by
    simp [Model.Renames, Model.keyFields, numberedMember, member]
  have declaredIff := (indexes_declared_iff accepted {}).2.1 nameIndex (by decide) "name" covered
  exact ⟨accepted, covered, declaredIff.mpr kept⟩

/-- The index over the key asks for a column that the table does not have, when the
table is created and when the index is added to it later. -/
theorem index_may_be_undeclared :
    numberedMember.settled {} = .ok numberedMember ∧
      Script.listings ((Ddl.createTable {} numberedMember).render .sqlServer) =
        [{ keyword := "TABLE", names := ["MemberNo", "name"] },
          { keyword := "INDEX", names := ["number"] },
          { keyword := "INDEX", names := ["name"] }] ∧
      "number" ∉ Ddl.columnNames {} numberedMember ∧
      (diff numberedMember memberTable).changes =
        [.createIndex numberIndex, .createIndex nameIndex] :=
  ⟨rfl, listings_createTable {} numberedMember, by decide, by decide +kernel⟩

end Schema

end SqlMapper
