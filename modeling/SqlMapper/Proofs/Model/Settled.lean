import SqlMapper.Model.Registry

namespace SqlMapper.Model

/-! What holds for a model whose declaration has been accepted. -/

variable {declared model : Model} {settings : Settings} {index : Index}

/-- An accepted model has the key column of its declaration and no faulty index. -/
theorem sound_of_settled (accepted : declared.settled settings = .ok model) :
    model.keyColumn settings = .ok model.key ∧ model.indexesFault? = none := by
  unfold settled at accepted
  cases column : declared.keyColumn settings with
  | error error => simp [column, bind, Except.bind] at accepted
  | ok key =>
      simp only [column, bind, Except.bind] at accepted
      split at accepted
      · cases accepted
      · next sound =>
        cases accepted
        exact ⟨column, sound⟩

theorem indexesFault?_of_settled (accepted : declared.settled settings = .ok model) :
    model.indexesFault? = none :=
  (sound_of_settled accepted).2

theorem columns_ne_nil_of_sound (sound : model.indexFault? index = none) : index.columns ≠ [] := by
  intro empty
  rw [indexFault?, empty] at sound
  cases sound

theorem columns_ne_nil_of_settled (accepted : declared.settled settings = .ok model)
    (member : index ∈ model.allIndexes) : index.columns ≠ [] := by
  rcases List.mem_append.mp member with ofField | ofModel
  · obtain ⟨field, _, full⟩ := List.mem_filterMap.mp ofField
    obtain ⟨own, _, same⟩ := Option.map_eq_some_iff.mp full
    rw [← same]
    exact List.cons_ne_nil _ _
  · have sound := indexesFault?_of_settled accepted
    unfold indexesFault? at sound
    split at sound
    · cases sound
    · exact columns_ne_nil_of_sound (List.findSome?_eq_none_iff.mp sound index ofModel)

end SqlMapper.Model
