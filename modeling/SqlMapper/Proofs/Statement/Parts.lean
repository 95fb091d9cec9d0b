import SqlMapper.Prepared

namespace SqlMapper

/-! What prepared statements are made of.

A statement that could be prepared comes from a registered model and from what its
input binds.  There is one lemma for each kind of statement, and for saving one for
each plan.
-/

variable {registry : Registry} {name : String} {model : Model} {record : Record} {key : Value}
  {filter : Filter} {selection : Selection} {prepared : Prepared} {plan : SavePlan}

theorem exists_of_bind_eq_ok {ε α β : Type} {result : Except ε α} {next : α → Except ε β}
    {value : β} (done : result >>= next = .ok value) :
    ∃ first, result = .ok first ∧ next first = .ok value := by
  cases result with
  | error error => cases done
  | ok first => exact ⟨first, rfl, done⟩

namespace Prepared

theorem parts_of_insert (known : registry.model name = .ok model)
    (done : insert registry name record = .ok prepared) :
    ∃ assignments parameters,
      (model.assignments record).complete .empty = .ok (assignments, parameters) ∧
        prepared = { statement := .insert (registry.tableOf model) assignments, parameters } := by
  obtain ⟨_, found, done⟩ := exists_of_bind_eq_ok done
  cases known.symm.trans found
  obtain ⟨⟨assignments, parameters⟩, bound, done⟩ := exists_of_bind_eq_ok done
  cases done
  exact ⟨assignments, parameters, bound, rfl⟩

theorem parts_of_update (known : registry.model name = .ok model)
    (done : update registry name key record = .ok prepared) :
    ∃ assignments parameters,
      (model.assignments record).complete .empty = .ok (assignments, parameters) ∧
        prepared = {
          statement := .update (registry.tableOf model) model.key assignments
          parameters := parameters.addNamed Statement.keyParameter key } := by
  obtain ⟨_, found, done⟩ := exists_of_bind_eq_ok done
  cases known.symm.trans found
  obtain ⟨⟨assignments, parameters⟩, bound, done⟩ := exists_of_bind_eq_ok done
  cases done
  exact ⟨assignments, parameters, bound, rfl⟩

theorem parts_of_save_unusable (known : registry.model name = .ok model)
    (unusable : (model.keyValue? record).filter Value.isUsableKey = none)
    (done : save registry name record = .ok plan) :
    ∃ inserted, insert registry name record = .ok inserted ∧ plan = .insert inserted := by
  obtain ⟨_, found, done⟩ := exists_of_bind_eq_ok done
  cases known.symm.trans found
  rw [unusable] at done
  obtain ⟨inserted, prepared, done⟩ := exists_of_bind_eq_ok done
  cases done
  exact ⟨inserted, prepared, rfl⟩

theorem parts_of_save_usable (known : registry.model name = .ok model)
    (usable : (model.keyValue? record).filter Value.isUsableKey = some key)
    (done : save registry name record = .ok plan) :
    ∃ assignments parameters,
      (model.assignments record).complete .empty = .ok (assignments, parameters) ∧
        plan = .keyed key (probeOf registry model key)
          { statement := .update (registry.tableOf model) model.key assignments
            parameters := parameters.addNamed Statement.keyParameter key }
          { statements := [
              .permitKeys (registry.tableOf model) true,
              .insertKeyed (registry.tableOf model) model.key assignments,
              .permitKeys (registry.tableOf model) false, .reportKey]
            parameters := parameters.addNamed Statement.keyParameter key } := by
  obtain ⟨_, found, done⟩ := exists_of_bind_eq_ok done
  cases known.symm.trans found
  rw [usable] at done
  obtain ⟨⟨assignments, parameters⟩, bound, done⟩ := exists_of_bind_eq_ok done
  cases done
  exact ⟨assignments, parameters, bound, rfl⟩

theorem parts_of_select (known : registry.model name = .ok model)
    (done : select registry name selection = .ok prepared) :
    ∃ conditions parameters arrangement,
      (Condition.compileAll model selection.filter).complete .empty =
          .ok (conditions, parameters) ∧
        arrangement? model selection = .ok arrangement ∧
          prepared = {
            statement := .select (registry.tableOf model) conditions arrangement, parameters } := by
  obtain ⟨_, found, done⟩ := exists_of_bind_eq_ok done
  cases known.symm.trans found
  obtain ⟨⟨conditions, parameters⟩, bound, done⟩ := exists_of_bind_eq_ok done
  obtain ⟨arrangement, arranged, done⟩ := exists_of_bind_eq_ok done
  cases done
  exact ⟨conditions, parameters, arrangement, bound, arranged, rfl⟩

theorem parts_of_count (known : registry.model name = .ok model)
    (done : count registry name filter = .ok prepared) :
    ∃ conditions parameters,
      (Condition.compileAll model filter).complete .empty = .ok (conditions, parameters) ∧
        prepared = { statement := .count (registry.tableOf model) conditions, parameters } := by
  obtain ⟨_, found, done⟩ := exists_of_bind_eq_ok done
  cases known.symm.trans found
  obtain ⟨⟨conditions, parameters⟩, bound, done⟩ := exists_of_bind_eq_ok done
  cases done
  exact ⟨conditions, parameters, bound, rfl⟩

end Prepared

end SqlMapper
