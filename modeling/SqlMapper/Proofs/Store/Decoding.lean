import SqlMapper.Proofs.Binding.Content
import SqlMapper.Proofs.Calendar.Stored
import SqlMapper.Proofs.Entries
import SqlMapper.Store

namespace SqlMapper

/-! Rows as records.

What a record shows of a column, written again, leaves in the column what was
there.  Documents are excepted: their text is read as a text and would be quoted
by the next writing.  So are dates whose year is written with a sign.
-/

open Calendar (Instant)

variable {model : Model} {row : Row} {field : Field} {name : String} {value content : Value}

structure Field.Rereads (field : Field) (value : Value) : Prop where
  plain : field.type.isSerialized = false
  dated : field.type = .date → ∀ instant, value.instant? = some instant → instant.HasPlainYear

theorem Record.get?_ofRow (model : Model) (row : Row) (other : name ≠ keyAlias) :
    (ofRow model row).get? name = (row.get? name).map (model.decoded name) := by
  have keys : ((row.entries.map fun entry => (entry.1, model.decoded entry.1 entry.2)).map
      (·.1)).Nodup := by
    rw [List.map_map]
    exact row.nodup_keys
  rw [ofRow, get?_set_of_ne _ _ other, get?_ofList keys]
  exact entry?_map model.decoded rfl

theorem Model.decoded_boolean (declared : model.field? name = some field)
    (boolean : field.type = .boolean) (given : value.isNull = false) :
    model.decoded name value = .bool value.truthy := by
  simp [decoded, declared, boolean, given]

theorem Model.decoded_null (model : Model) (name : String) : model.decoded name .null = .null := by
  unfold decoded
  split
  · exact if_neg fun shown => shown.2 rfl
  · rfl

theorem Model.decoded_other (declared : model.field? name = some field)
    (other : field.type ≠ .boolean) (value : Value) : model.decoded name value = value := by
  simp [decoded, declared, other]

namespace Field

theorem stored_again (rereads : field.Rereads value)
    (accepted : Operand.stored field value = .ok content) :
    Operand.stored field content = .ok content := by
  obtain ⟨plain, dated⟩ := rereads
  cases type : field.type with
  | json => simp [type, FieldType.isSerialized] at plain
  | array item => simp [type, FieldType.isSerialized] at plain
  | date =>
      simp only [Operand.stored, type] at accepted
      split at accepted
      · next instant read =>
        cases accepted
        have again := Calendar.instant?_stored (dated type instant read)
        simp only [Operand.stored, type, again, instant.stored_cut]
      · cases accepted
  | string | text | number | boolean | point =>
      simp only [Operand.stored, type]

theorem stored_isNull (given : value.isNull = false)
    (accepted : Operand.stored field value = .ok content) : content.isNull = false := by
  unfold Operand.stored at accepted
  split at accepted
  · cases accepted
    rfl
  · cases accepted
    rfl
  · split at accepted
    · cases accepted
      rfl
    · cases accepted
  · cases accepted
    exact given

/-- What a record shows of a column holds the same content. -/
theorem content_decoded (declared : model.field? field.name = some field)
    (rereads : field.Rereads value) (accepted : field.content value = .ok content) :
    field.content (model.decoded field.name content) = .ok content := by
  cases given : value.isNull with
  | true =>
      rw [content_null given] at accepted
      cases accepted
      rw [Model.decoded_null, content_null rfl]
  | false =>
      by_cases boolean : field.type = .boolean
      · rw [content_boolean given boolean] at accepted
        cases accepted
        rw [Model.decoded_boolean declared boolean rfl, content_boolean rfl boolean]
        cases value.truthy <;> rfl
      · rw [content_stored given boolean] at accepted
        rw [Model.decoded_other declared boolean,
          content_stored (stored_isNull given accepted) boolean]
        exact stored_again rereads accepted

end Field

end SqlMapper
