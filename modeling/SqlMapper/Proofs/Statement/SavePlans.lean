import SqlMapper.Proofs.Model.Runs
import SqlMapper.Proofs.Statement.Declared
import SqlMapper.Proofs.Statement.Texts
import SqlMapper.Proofs.Store.Saving

namespace SqlMapper

/-! The plan by which a record is saved.

Whether the row is there is known only when the plan is followed.  So both ways of
writing it set the same columns to the same values, and each is what asking for it
alone would give.
-/

variable {registry : Registry} {name : String} {model declared : Model} {settings : Settings}
  {field : Field} {record : Record} {key : Value} {error : CompileError}

/-- A key that a row can have: a positive whole number. -/
def Value.IsPositive (value : Value) : Prop :=
  ∃ number, value.asInt? = some number ∧ 0 < number

theorem Value.isUsableKey_iff : key.isUsableKey = true ↔ key.IsPositive := by
  rw [isUsableKey, IsPositive, Option.any_eq_true]
  simp only [decide_eq_true_eq]

namespace Model

/-- The key that a record gives: under the column in which the key is stored, or if
there is none under the name of the key field. -/
inductive GivesKey (model : Model) (record : Record) : Value → Prop where
  | stored {key : Value} (given : record.get? model.key = some key) : GivesKey model record key
  | named {field : Field} {key : Value} (absent : record.get? model.key = none)
      (member : field ∈ model.fields) (marked : field.primaryKey = true)
      (given : record.get? field.name = some key) : GivesKey model record key

/-- An accepted model has no key field but one. -/
theorem keyFields_eq_singleton (accepted : declared.settled settings = .ok model)
    (member : field ∈ model.keyFields) : model.keyFields = [field] := by
  have oneKey := (keys_of_keyColumn (sound_of_settled accepted).1).1
  cases fields : model.keyFields with
  | nil =>
      rw [fields] at member
      cases member
  | cons first others =>
      rw [fields] at member oneKey
      cases List.eq_nil_of_length_eq_zero (Nat.le_zero.mp (Nat.le_of_succ_le_succ oneKey))
      rw [List.mem_singleton.mp member]

theorem keyValue?_eq_some_iff (accepted : declared.settled settings = .ok model) :
    model.keyValue? record = some key ↔ model.GivesKey record key := by
  have marked {field : Field} :
      field ∈ model.keyFields ↔ field ∈ model.fields ∧ field.primaryKey = true :=
    List.mem_filter
  unfold keyValue?
  cases stored : record.get? model.key with
  | some given =>
      constructor
      · intro same
        exact .stored (stored.trans same)
      · rintro (same | absent)
        · exact stored.symm.trans same
        · rw [absent] at stored
          cases stored
  | none =>
      rw [Option.none_or]
      constructor
      · intro found
        obtain ⟨field, member, given⟩ := List.exists_of_findSome?_eq_some found
        obtain ⟨inside, primary⟩ := marked.mp member
        exact .named stored inside primary given
      · rintro (same | ⟨_, inside, primary, given⟩)
        · rw [same] at stored
          cases stored
        · have member := marked.mpr ⟨inside, primary⟩
          rw [keyFields_eq_singleton accepted member]
          simp [given]

theorem usableKey_eq_some_iff (accepted : declared.settled settings = .ok model) :
    (model.keyValue? record).filter Value.isUsableKey = some key ↔
      model.GivesKey record key ∧ key.IsPositive := by
  rw [Option.filter_eq_some_iff, keyValue?_eq_some_iff accepted, Value.isUsableKey_iff]

end Model

namespace Prepared

theorem save_eq_error_iff :
    save registry name record = .error error ↔ insert registry name record = .error error := by
  cases known : registry.model name with
  | error unknown =>
      have saving : save registry name record = .error unknown := by
        simp only [save, known, bind, Except.bind]
      have inserting : insert registry name record = .error unknown := by
        simp only [insert, known, bind, Except.bind]
      rw [saving, inserting, Except.error.injEq, Except.error.injEq]
  | ok model =>
      cases bound : (model.assignments record).complete .empty with
      | error refused =>
          rw [save_eq_error known bound, insert_eq_error known bound, Except.error.injEq,
            Except.error.injEq]
      | ok written =>
          obtain ⟨assignments, parameters⟩ := written
          rw [insert_eq_ok known bound]
          cases usable : (model.keyValue? record).filter Value.isUsableKey with
          | none => simp [save_eq_insert known usable bound]
          | some key => simp [save_eq_keyed known usable bound]

end Prepared

/-- A record without a usable key is inserted as it stands.  Otherwise the plan asks for
the key, updates what has it and inserts under it what has not, as asking for each of
them alone would; and both ways of writing set the same columns to the same values and
send the same parameters.  There is no plan exactly if the record cannot be inserted. -/
theorem save_consistent (registry : Registry) (name : String) {declared model : Model}
    (accepted : declared.settled registry.settings = .ok model)
    (known : registry.model name = .ok model) (record : Record) :
    (∀ error, Prepared.save registry name record = .error error ↔
      Prepared.insert registry name record = .error error) ∧
    ∀ inserted, Prepared.insert registry name record = .ok inserted →
      ((¬ ∃ key, model.GivesKey record key ∧ key.IsPositive) →
        Prepared.save registry name record = .ok (.insert inserted)) ∧
      ∀ key, model.GivesKey record key → key.IsPositive →
        ∃ probe updated batch assignments,
          Prepared.save registry name record = .ok (.keyed key probe updated batch) ∧
          Prepared.probe registry name key = .ok probe ∧
          Prepared.update registry name key record = .ok updated ∧
          inserted.text = Statement.insertText (registry.tableOf model) assignments ∧
          updated.text = Statement.updateText (registry.tableOf model) model.key assignments ∧
          batch.statements.map Statement.text =
            Statement.keyedTexts (registry.tableOf model) model.key assignments ∧
          updated.parameters = inserted.parameters.addNamed Statement.keyParameter key ∧
          batch.parameters = updated.parameters := by
  refine ⟨fun error => Prepared.save_eq_error_iff, fun inserted done => ?_⟩
  obtain ⟨assignments, parameters, bound, rfl⟩ := Prepared.parts_of_insert known done
  refine ⟨fun unusable => ?_, fun key given positive => ?_⟩
  · refine Prepared.save_eq_insert known ?_ bound
    cases usable : (model.keyValue? record).filter Value.isUsableKey with
    | none => rfl
    | some key => exact absurd ⟨key, (Model.usableKey_eq_some_iff accepted).mp usable⟩ unusable
  · have usable := (Model.usableKey_eq_some_iff accepted).mpr ⟨given, positive⟩
    have probed : Prepared.probe registry name key = .ok (Prepared.probeOf registry model key) := by
      simp only [Prepared.probe, known, bind, Except.bind]
      rfl
    exact ⟨_, _, _, assignments, Prepared.save_eq_keyed known usable bound, probed,
      Prepared.update_eq_ok known key bound, Statement.text_insert _ _, Statement.text_update _ _ _,
      Statement.texts_keyed _ _ _, rfl, rfl⟩

/-- A member by the name of the key field, with a text for a number. -/
def transferred : Record :=
  (Record.empty.set "name" (.text "Ada")).set "number" (.text " 5 ")

theorem save_consistent_member :
    member.GivesKey transferred (.text " 5 ") ∧ Value.IsPositive (.text " 5 ") ∧
    ∃ probe updated batch,
      Prepared.save members member.name transferred =
        .ok (.keyed (.text " 5 ") probe updated batch) ∧
      Prepared.update members member.name (.text " 5 ") transferred = .ok updated ∧
      updated.text = "UPDATE [dbo].[Member]\nSET [name]=(@param1)\n" ++
        "WHERE [MemberNo] = (@id);\nSELECT @id AS pkid;" ∧
      batch.text = "SET IDENTITY_INSERT [dbo].[Member] ON;\n" ++
        "INSERT INTO [dbo].[Member] ([MemberNo],[name])\nVALUES ((@id),(@param1));\n" ++
        "SET IDENTITY_INSERT [dbo].[Member] OFF;\nSELECT @id AS pkid;" ∧
      batch.parameters = updated.parameters := by
  have given : member.GivesKey transferred (.text " 5 ") :=
    .named rfl (List.mem_cons_self ..) rfl rfl
  have positive : Value.IsPositive (.text " 5 ") := ⟨5, by decide, by decide⟩
  have accepted : member.settled members.settings = .ok member := rfl
  obtain ⟨_, plans⟩ := save_consistent members member.name accepted rfl transferred
  obtain ⟨_, keyed⟩ := plans _ rfl
  obtain ⟨probe, updated, batch, _, saved, _, updates, _, _, _, _, same⟩ := keyed _ given positive
  refine ⟨given, positive, probe, updated, batch, saved, updates, ?_, ?_, same⟩
  · cases updates
    rfl
  · cases saved
    rfl

end SqlMapper
