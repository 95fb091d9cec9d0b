import SqlMapper.Proofs.Binding.Shape
import SqlMapper.Proofs.Statement.Placeholders

namespace SqlMapper

/-! Statement text does not depend on data.

Two inputs of the same shape are prepared to the same text with the same parameter
names, whatever their values.
-/

variable {registry : Registry} {name : String} {model : Model}

structure Prepared.SameText (left right : Prepared) : Prop where
  text : left.text = right.text
  names : left.parameters.names = right.parameters.names

def SavePlan.SameText : SavePlan → SavePlan → Prop
  | .insert left, .insert right => left.SameText right
  | .keyed _ probe update batch, .keyed _ probe' update' batch' =>
    probe.SameText probe' ∧ update.SameText update' ∧ batch.single.SameText batch'.single
  | _, _ => False

/-- Filters of the same shape in the same arrangement. -/
structure Selection.SameShape (model : Model) (left right : Selection) : Prop where
  filter : Filter.SameShape model left.filter right.filter
  order : left.order = right.order
  skip : left.skip = right.skip
  limit : left.limit = right.limit

def Model.hasUsableKey (model : Model) (record : Record) : Bool :=
  ((model.keyValue? record).filter Value.isUsableKey).isSome

theorem Parameters.Alike.addNamed {left right : Parameters} (alike : left.Alike right)
    (name : String) (value other : Value) :
    (left.addNamed name value).Alike (right.addNamed name other) where
  names := by rw [names_addNamed, names_addNamed, alike.names]
  next := congrArg (· + 1) alike.next

theorem Selection.SameShape.arrangement? {left right : Selection}
    (same : Selection.SameShape model left right) :
    Prepared.arrangement? model left = Prepared.arrangement? model right := by
  obtain ⟨_, order, skip, limit⟩ := left
  obtain ⟨_, rfl, rfl, rfl⟩ := same
  rfl

/-- The parts that records of the same shape are written with. -/
theorem Record.SameShape.assignments {left right : Record} {made made' : List Assignment}
    {parameters parameters' : Parameters} (same : Record.SameShape model left right)
    (bound : (model.assignments left).complete .empty = .ok (made, parameters))
    (bound' : (model.assignments right).complete .empty = .ok (made', parameters')) :
    made = made' ∧ parameters.Alike parameters' :=
  (Model.alike_assignments same).complete bound bound'

namespace Prepared

/-- The same statement with parameters of the same names. -/
theorem SameText.of_alike {statement : Statement} {parameters parameters' : Parameters}
    (alike : parameters.Alike parameters') :
    SameText { statement, parameters } { statement, parameters := parameters' } :=
  ⟨rfl, alike.names⟩

variable {left right : Record} {prepared prepared' : Prepared}

theorem sameText_of_insert (known : registry.model name = .ok model)
    (same : Record.SameShape model left right)
    (done : insert registry name left = .ok prepared)
    (done' : insert registry name right = .ok prepared') : prepared.SameText prepared' := by
  obtain ⟨assignments, parameters, bound, rfl⟩ := parts_of_insert known done
  obtain ⟨_, parameters', bound', rfl⟩ := parts_of_insert known done'
  obtain ⟨rfl, alike⟩ := same.assignments bound bound'
  exact .of_alike alike

theorem sameText_of_update {key key' : Value} (known : registry.model name = .ok model)
    (same : Record.SameShape model left right)
    (done : update registry name key left = .ok prepared)
    (done' : update registry name key' right = .ok prepared') : prepared.SameText prepared' := by
  obtain ⟨assignments, parameters, bound, rfl⟩ := parts_of_update known done
  obtain ⟨_, parameters', bound', rfl⟩ := parts_of_update known done'
  obtain ⟨rfl, alike⟩ := same.assignments bound bound'
  exact .of_alike (alike.addNamed _ _ _)

theorem sameText_of_select {left right : Selection} (known : registry.model name = .ok model)
    (same : Selection.SameShape model left right)
    (done : select registry name left = .ok prepared)
    (done' : select registry name right = .ok prepared') : prepared.SameText prepared' := by
  obtain ⟨conditions, parameters, arrangement, bound, arranged, rfl⟩ := parts_of_select known done
  obtain ⟨_, parameters', _, bound', arranged', rfl⟩ := parts_of_select known done'
  obtain ⟨rfl, alike⟩ := (Condition.alike_compileAll model same.filter).complete bound bound'
  cases (arranged.symm.trans same.arrangement?).trans arranged'
  exact .of_alike alike

theorem sameText_of_count {left right : Filter} (known : registry.model name = .ok model)
    (same : Filter.SameShape model left right)
    (done : count registry name left = .ok prepared)
    (done' : count registry name right = .ok prepared') : prepared.SameText prepared' := by
  obtain ⟨conditions, parameters, bound, rfl⟩ := parts_of_count known done
  obtain ⟨_, parameters', bound', rfl⟩ := parts_of_count known done'
  obtain ⟨rfl, alike⟩ := (Condition.alike_compileAll model same).complete bound bound'
  exact .of_alike alike

theorem sameText_of_save {plan plan' : SavePlan} (known : registry.model name = .ok model)
    (same : Record.SameShape model left right)
    (usable : model.hasUsableKey left = model.hasUsableKey right)
    (done : save registry name left = .ok plan) (done' : save registry name right = .ok plan') :
    plan.SameText plan' := by
  unfold Model.hasUsableKey at usable
  cases key : (model.keyValue? left).filter Value.isUsableKey with
  | none =>
      have key' : (model.keyValue? right).filter Value.isUsableKey = none := by
        rwa [key, Option.isSome_none, eq_comm, Option.isSome_eq_false_iff,
          Option.isNone_iff_eq_none] at usable
      obtain ⟨prepared, inserted, rfl⟩ := parts_of_save_unusable known key done
      obtain ⟨prepared', inserted', rfl⟩ := parts_of_save_unusable known key' done'
      exact sameText_of_insert known same inserted inserted'
  | some value =>
      rw [key, eq_comm, Option.isSome_some, Option.isSome_iff_exists] at usable
      obtain ⟨value', key'⟩ := usable
      obtain ⟨assignments, parameters, bound, rfl⟩ := parts_of_save_usable known key done
      obtain ⟨_, parameters', bound', rfl⟩ := parts_of_save_usable known key' done'
      obtain ⟨rfl, alike⟩ := same.assignments bound bound'
      have alike := alike.addNamed Statement.keyParameter value value'
      exact ⟨⟨rfl, rfl⟩, .of_alike alike, rfl, alike.names⟩

end Prepared

/-- Two inputs of the same shape are prepared to the same text with parameters of the
same names. -/
theorem text_of_sameShape (registry : Registry) (name : String) {model : Model}
    (known : registry.model name = .ok model) :
    (∀ left right, Record.SameShape model left right →
      (∀ prepared prepared', Prepared.insert registry name left = .ok prepared →
        Prepared.insert registry name right = .ok prepared' → prepared.SameText prepared') ∧
      (∀ key key' prepared prepared', Prepared.update registry name key left = .ok prepared →
        Prepared.update registry name key' right = .ok prepared' →
          prepared.SameText prepared') ∧
      (model.hasUsableKey left = model.hasUsableKey right →
        ∀ plan plan', Prepared.save registry name left = .ok plan →
          Prepared.save registry name right = .ok plan' → plan.SameText plan')) ∧
    (∀ left right, Selection.SameShape model left right →
      ∀ prepared prepared', Prepared.select registry name left = .ok prepared →
        Prepared.select registry name right = .ok prepared' → prepared.SameText prepared') ∧
    ∀ left right, Filter.SameShape model left right →
      ∀ prepared prepared', Prepared.count registry name left = .ok prepared →
        Prepared.count registry name right = .ok prepared' → prepared.SameText prepared' :=
  ⟨fun _ _ same => ⟨fun _ _ => Prepared.sameText_of_insert known same,
      fun _ _ _ _ => Prepared.sameText_of_update known same,
      fun usable _ _ => Prepared.sameText_of_save known same usable⟩,
    fun _ _ same _ _ => Prepared.sameText_of_select known same,
    fun _ _ same _ _ => Prepared.sameText_of_count known same⟩

/-- The shape of `writtenLetter`, with text that looks like a part of a statement. -/
def forgedLetter : Record :=
  ((Record.empty.set "to@[home]" (.text "NULL); DROP TABLE [Letter")).set "sent" (.int 0)).set "id"
    (.text "8")

/-- The shape of `heaviest`, with text that looks like references and names. -/
def forged : Selection :=
  { heaviest with
    filter := [
      ("to@[home]", .oneOf (.list [.text "@param4", .null, .text "] --"])),
      ("sent", .eq (.text "0=0")),
      ("weight", .greatest "weight" "dbo.Letter"
        (some [("weight", .between (.float 0.5) (.list []))]))] }

theorem text_of_forged :
    (∃ plan plan', Prepared.save letters letter.name writtenLetter = .ok plan ∧
      Prepared.save letters letter.name forgedLetter = .ok plan' ∧ plan.SameText plan') ∧
    ∃ prepared prepared', Prepared.select letters letter.name heaviest = .ok prepared ∧
      Prepared.select letters letter.name forged = .ok prepared' ∧ prepared.SameText prepared' := by
  have plain {declared : Field} (type : declared.type ≠ .boolean) (left right : Value)
      (given : left.isNull = right.isNull) : left.SameShape (some declared) right :=
    ⟨given, by rintro _ ⟨⟩ boolean; exact absurd boolean type⟩
  have records : Record.SameShape letter writtenLetter forgedLetter :=
    .cons ⟨rfl, plain (by decide) _ _ rfl⟩ <| .cons ⟨rfl, rfl, fun _ _ _ => rfl⟩ <|
      .cons ⟨rfl, rfl, fun _ _ _ => rfl⟩ .nil
  have selections : Selection.SameShape letter heaviest forged := {
    filter :=
      ⟨rfl, .cons (plain (by decide) _ _ rfl) <| .cons (plain (by decide) _ _ rfl) <|
          .cons (plain (by decide) _ _ rfl) .nil,
        rfl, ⟨rfl, fun _ _ _ => rfl⟩,
        rfl, ⟨rfl, rfl, rfl, ⟨plain (by decide) _ _ rfl, plain (by decide) _ _ rfl⟩, trivial⟩, trivial⟩
    order := rfl
    skip := rfl
    limit := rfl }
  have known : letters.model letter.name = .ok letter := rfl
  have usable : letter.hasUsableKey writtenLetter = letter.hasUsableKey forgedLetter := by decide
  obtain ⟨saved, selected, _⟩ := text_of_sameShape letters letter.name known
  exact ⟨⟨_, _, rfl, rfl, (saved _ _ records).2.2 usable _ _ rfl rfl⟩,
    _, _, rfl, rfl, selected _ _ selections _ _ rfl rfl⟩

end SqlMapper
