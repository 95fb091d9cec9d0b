import SqlMapper.Proofs.Statement.Parts
import SqlMapper.Proofs.Statement.Wording

namespace SqlMapper

/-! References and parameters agree.

In the text of every statement the references name the parameters that are sent
with it, and no name is bound twice.  Where nothing but made-up names is bound
the references follow their numbers.
-/

open Parameters (namesFrom)
open Sql (Readable IsLabel references)

variable {registry : Registry} {name : String} {model : Model} {record : Record}
  {statement : Statement} {parameters : Parameters} {key : Value}

structure Prepared.Agrees (prepared : Prepared) : Prop where
  bound : ∀ name, name ∈ references prepared.text ↔ name ∈ prepared.parameters.names
  distinct : prepared.parameters.names.Nodup

/-- The references are the made-up names from the first on, each of them once and in
the order of the parameters. -/
structure Prepared.InOrder (prepared : Prepared) : Prop extends prepared.Agrees where
  ordered : references prepared.text = prepared.parameters.names
  numbered : prepared.parameters.names = namesFrom 1 prepared.parameters.size

def SavePlan.Agrees : SavePlan → Prop
  | .insert statement => statement.InOrder
  | .keyed _ probe update batch => probe.Agrees ∧ update.Agrees ∧ batch.single.Agrees

namespace Parameters

theorem isLabel_nameAt (number : Nat) : IsLabel (nameAt number) := by
  have digits : (toString number).toList.all Sql.isNameChar = true := by
    refine List.all_eq_true.mpr fun char member => ?_
    simp [Sql.isNameChar, Char.isAlphanum, Sql.isDigit_of_mem_toString member]
  rw [IsLabel, nameAt, String.toList_append, List.all_append, digits]
  rfl

theorem isLabel_of_mem_namesFrom {first count : Nat} (member : name ∈ namesFrom first count) :
    IsLabel name := by
  obtain ⟨number, _, same⟩ := List.mem_map.mp member
  exact same ▸ isLabel_nameAt number

theorem key_not_mem_namesFrom (first count : Nat) :
    Statement.keyParameter ∉ namesFrom first count := by
  intro member
  obtain ⟨number, _, same⟩ := List.mem_map.mp member
  have letter := congrArg (fun name => name.toList.head?) same
  simp [nameAt, Statement.keyParameter] at letter

end Parameters

namespace Prepared

theorem inOrder (plain : statement.Plain) (mentioned : statement.mentioned = parameters.names)
    (numbered : parameters.names = namesFrom 1 parameters.size) :
    InOrder { statement, parameters } := by
  have written : statement.sql.parameters = parameters.names :=
    statement.parameters_sql.trans mentioned
  have labels : ∀ name ∈ statement.sql.parameters, IsLabel name := by
    rw [written, numbered]
    exact fun name => Parameters.isLabel_of_mem_namesFrom
  have found : references statement.text = parameters.names :=
    (Sql.references_render (statement.readable_sql plain) labels).trans written
  exact {
    bound := fun name => by rw [text, found]
    distinct := numbered ▸ Parameters.nodup_namesFrom 1 _
    ordered := found
    numbered }

/-- A text that also singles out a row mentions the key beside what is drawn. -/
theorem agrees_keyed {sql : Sql} (drawn : Parameters)
    (numbered : drawn.names = namesFrom 1 drawn.size)
    (written : statement.text = sql.render .sqlServer) (readable : Readable sql)
    (mentioned : ∀ name, name ∈ sql.parameters ↔
      name ∈ drawn.names ∨ name = Statement.keyParameter) :
    Agrees { statement, parameters := drawn.addNamed Statement.keyParameter key } where
  bound := by
    intro name
    have labels : ∀ name ∈ sql.parameters, IsLabel name := by
      intro name member
      rcases (mentioned name).mp member with made | keyed
      · exact Parameters.isLabel_of_mem_namesFrom (numbered ▸ made)
      · subst keyed
        rfl
    rw [text, written, Sql.references_render readable labels, mentioned,
      Parameters.names_addNamed, List.mem_append, List.mem_singleton]
  distinct := by
    rw [Parameters.names_addNamed, numbered]
    refine List.nodup_append.mpr ⟨Parameters.nodup_namesFrom 1 _, by simp, ?_⟩
    intro name made key single same
    rw [same, List.mem_singleton.mp single] at made
    exact Parameters.key_not_mem_namesFrom 1 _ made

/-- A statement that binds the key alone. -/
theorem agrees_ofKey (plain : statement.Plain)
    (mentioned : statement.mentioned = [Statement.keyParameter]) :
    Agrees { statement, parameters := .ofKey key } := by
  refine agrees_keyed .empty rfl rfl (statement.readable_sql plain) fun name => ?_
  rw [statement.parameters_sql, mentioned]
  simp [Parameters.names, Parameters.empty]

variable {prepared : Prepared} {filter : Filter} {selection : Selection}

theorem agrees_probeOf (registry : Registry) (model : Model) (key : Value) :
    (probeOf registry model key).Agrees :=
  agrees_ofKey trivial rfl

/-- An update mentions what its assignments mention, and the key. -/
theorem agrees_update {assignments : List Assignment} (table : Table) (column : String)
    (key : Value) (mentioned : Assignment.mentioned assignments = parameters.names)
    (numbered : parameters.names = namesFrom 1 parameters.size) :
    Agrees {
      statement := .update table column assignments
      parameters := parameters.addNamed Statement.keyParameter key } := by
  refine agrees_keyed parameters numbered rfl (Statement.readable_sql _ trivial) fun name => ?_
  rw [Statement.parameters_sql, Statement.mentioned, mentioned, List.mem_append]
  split <;> simp

theorem inOrder_of_insert (done : insert registry name record = .ok prepared) :
    prepared.InOrder := by
  obtain ⟨model, _, done⟩ := exists_of_bind_eq_ok done
  obtain ⟨⟨assignments, parameters⟩, bound, done⟩ := exists_of_bind_eq_ok done
  cases done
  obtain ⟨mentioned, numbered⟩ := (model.draws_assignments record).complete bound
  exact inOrder trivial mentioned numbered

/-- What a filter becomes: readable conditions that mention what they bind. -/
theorem conditions_of_compileAll {conditions : List Condition} (plain : Filter.Plain filter)
    (bound : (Condition.compileAll model filter).complete .empty = .ok (conditions, parameters)) :
    Readable (Condition.body conditions) ∧
      (Condition.body conditions).parameters = parameters.names ∧
        parameters.names = namesFrom 1 parameters.size :=
  ⟨Condition.readable_body
    (Condition.readable_compileAll model plain (Binding.outcome_of_complete bound)),
    (Condition.draws_compileAll model filter).complete bound⟩

theorem inOrder_of_select (plain : Filter.Plain selection.filter)
    (done : select registry name selection = .ok prepared) : prepared.InOrder := by
  obtain ⟨model, _, done⟩ := exists_of_bind_eq_ok done
  obtain ⟨⟨conditions, parameters⟩, bound, done⟩ := exists_of_bind_eq_ok done
  obtain ⟨arrangement, _, done⟩ := exists_of_bind_eq_ok done
  cases done
  obtain ⟨readable, mentioned, numbered⟩ := conditions_of_compileAll plain bound
  exact inOrder readable mentioned numbered

theorem inOrder_of_count (plain : Filter.Plain filter)
    (done : count registry name filter = .ok prepared) : prepared.InOrder := by
  obtain ⟨model, _, done⟩ := exists_of_bind_eq_ok done
  obtain ⟨⟨conditions, parameters⟩, bound, done⟩ := exists_of_bind_eq_ok done
  cases done
  obtain ⟨readable, mentioned, numbered⟩ := conditions_of_compileAll plain bound
  exact inOrder readable mentioned numbered

theorem agrees_of_probe (done : probe registry name key = .ok prepared) : prepared.Agrees := by
  obtain ⟨model, _, done⟩ := exists_of_bind_eq_ok done
  cases done
  exact agrees_probeOf registry model key

theorem agrees_of_find (done : find registry name key = .ok prepared) : prepared.Agrees := by
  obtain ⟨model, _, done⟩ := exists_of_bind_eq_ok done
  cases done
  exact agrees_ofKey trivial rfl

theorem agrees_of_delete (done : delete registry name key = .ok prepared) : prepared.Agrees := by
  obtain ⟨model, _, done⟩ := exists_of_bind_eq_ok done
  cases done
  exact agrees_ofKey trivial rfl

theorem inOrder_of_deleteAll (done : deleteAll registry name = .ok prepared) :
    prepared.InOrder := by
  obtain ⟨model, _, done⟩ := exists_of_bind_eq_ok done
  cases done
  exact inOrder trivial rfl rfl

theorem agrees_of_update (done : update registry name key record = .ok prepared) :
    prepared.Agrees := by
  obtain ⟨model, _, done⟩ := exists_of_bind_eq_ok done
  obtain ⟨⟨assignments, parameters⟩, bound, done⟩ := exists_of_bind_eq_ok done
  cases done
  obtain ⟨mentioned, numbered⟩ := (model.draws_assignments record).complete bound
  exact agrees_update _ _ key mentioned numbered

end Prepared

/-! Batches. -/

/-- The text of a batch is that of all its statements on lines of their own. -/
def Batch.sql (batch : Batch) : Sql :=
  Sql.separated "\n" (batch.statements.map fun statement => statement.sql ++ [.text ";"])

theorem Batch.text_eq_render (batch : Batch) : batch.text = batch.sql.render .sqlServer := by
  rw [sql, Sql.render_separated, text, List.map_map]
  congr 1
  refine List.map_congr_left fun statement _ => ?_
  simp [Statement.text, Piece.render]

theorem Batch.text_single (batch : Batch) :
    batch.single.statement.text = batch.sql.render .sqlServer := by
  rw [← text_eq_render]
  simp [single, Statement.text, Statement.sql, Piece.render]

theorem Batch.readable_sql {batch : Batch}
    (plain : ∀ statement ∈ batch.statements, statement.Plain) : Readable batch.sql := by
  refine Sql.readable_separated rfl fun part member => ?_
  obtain ⟨statement, included, same⟩ := List.mem_map.mp member
  rw [← same]
  exact (statement.readable_sql (plain statement included)).followed rfl trivial

theorem Batch.parameters_sql (batch : Batch) :
    batch.sql.parameters = batch.statements.flatMap Statement.mentioned := by
  simp [sql, List.flatMap_map, Statement.parameters_sql]

namespace Prepared

variable {plan : SavePlan}

theorem agrees_batch {assignments : List Assignment} (table : Table) (column : String)
    (key : Value) (mentioned : Assignment.mentioned assignments = parameters.names)
    (numbered : parameters.names = namesFrom 1 parameters.size) :
    Agrees (Batch.single {
      statements := [
        .permitKeys table true, .insertKeyed table column assignments, .permitKeys table false,
        .reportKey]
      parameters := parameters.addNamed Statement.keyParameter key }) := by
  refine agrees_keyed parameters numbered (Batch.text_single _) (Batch.readable_sql ?_)
    fun name => ?_
  · intro statement member
    simp only [List.mem_cons, List.not_mem_nil, or_false] at member
    rcases member with same | same | same | same <;> subst same <;> trivial
  · rw [Batch.parameters_sql]
    simp only [List.flatMap_cons, List.flatMap_nil, Statement.mentioned, mentioned]
    grind

theorem agrees_of_save (done : save registry name record = .ok plan) : plan.Agrees := by
  obtain ⟨model, _, done⟩ := exists_of_bind_eq_ok done
  split at done
  · obtain ⟨prepared, inserted, done⟩ := exists_of_bind_eq_ok done
    cases done
    exact inOrder_of_insert inserted
  · next key _ =>
    obtain ⟨⟨assignments, parameters⟩, bound, done⟩ := exists_of_bind_eq_ok done
    cases done
    obtain ⟨mentioned, numbered⟩ := (model.draws_assignments record).complete bound
    exact ⟨agrees_probeOf registry model key, agrees_update _ _ key mentioned numbered,
      agrees_batch _ _ key mentioned numbered⟩

end Prepared

/-- The references in the text of a statement name its parameters, all of them and
nothing else, and where the key is not singled out they do so in order.  Whatever is
compiled on the way numbers on from what is bound, also if it fails. -/
theorem references_agree (registry : Registry) (name : String) :
    (∀ record prepared, Prepared.insert registry name record = .ok prepared →
      prepared.InOrder) ∧
    (∀ selection prepared, Filter.Plain selection.filter →
      Prepared.select registry name selection = .ok prepared → prepared.InOrder) ∧
    (∀ filter prepared, Filter.Plain filter →
      Prepared.count registry name filter = .ok prepared → prepared.InOrder) ∧
    (∀ key prepared, Prepared.probe registry name key = .ok prepared → prepared.Agrees) ∧
    (∀ key prepared, Prepared.find registry name key = .ok prepared → prepared.Agrees) ∧
    (∀ key prepared, Prepared.delete registry name key = .ok prepared → prepared.Agrees) ∧
    (∀ prepared, Prepared.deleteAll registry name = .ok prepared → prepared.InOrder) ∧
    (∀ key record prepared, Prepared.update registry name key record = .ok prepared →
      prepared.Agrees) ∧
    (∀ record plan, Prepared.save registry name record = .ok plan → plan.Agrees) ∧
    (∀ field value, (Operand.compile field value).Numbers) ∧
    (∀ field expr, (Expr.compileOperand field expr).Numbers) ∧
    ∀ model, (∀ filter, (Condition.compileAll model filter).Numbers) ∧
      ∀ record, (model.assignments record).Numbers :=
  ⟨fun _ _ => Prepared.inOrder_of_insert, fun _ _ => Prepared.inOrder_of_select,
    fun _ _ => Prepared.inOrder_of_count, fun _ _ => Prepared.agrees_of_probe,
    fun _ _ => Prepared.agrees_of_find, fun _ _ => Prepared.agrees_of_delete,
    fun _ => Prepared.inOrder_of_deleteAll, fun _ _ _ => Prepared.agrees_of_update,
    fun _ _ => Prepared.agrees_of_save,
    fun field value => (Operand.draws_compile field value).numbers,
    fun field expr => (Expr.draws_compileOperand field expr).numbers,
    fun model => ⟨fun filter => (Condition.draws_compileAll model filter).numbers,
      fun record => (model.draws_assignments record).numbers⟩⟩

/-- A model whose names contain the marks of references and of quoted names. -/
def letter : Model where
  name := "Letter@]"
  fields := [
    { name := "to@[home]", type := .string }, { name := "sent", type := .boolean },
    { name := "weight", type := .number }]

def letters : Registry :=
  { settings := {}, table := SortedTable.empty.insert letter.name letter }

/-- A list with a gap, a truth value and a subquery with bounds of its own. -/
def heaviest : Selection where
  filter := [
    ("to@[home]", .oneOf (.list [.text "Ada", .null, .text "Bo"])),
    ("sent", .eq (.bool true)),
    ("weight", .greatest "weight" "dbo.Letter" (some [("weight", .between (.int 1) (.int 5))]))]
  order := ["to@[home] DESC"]
  limit := some 10

def writtenLetter : Record :=
  ((Record.empty.set "to@[home]" (.text "Ada")).set "sent" (.bool false)).set "id" (.int 7)

theorem references_of_letters :
    letter.settled {} = .ok letter ∧
      (∃ prepared, Prepared.insert letters letter.name writtenLetter = .ok prepared ∧
        prepared.InOrder ∧ prepared.parameters.names = ["param1"]) ∧
      (∃ prepared, Prepared.select letters letter.name heaviest = .ok prepared ∧
        prepared.InOrder ∧
          prepared.parameters.names = ["param1", "param2", "param3", "param4"]) ∧
      ∃ key probe update batch,
        Prepared.save letters letter.name writtenLetter = .ok (.keyed key probe update batch) ∧
          probe.Agrees ∧ update.Agrees ∧ batch.single.Agrees ∧
            update.parameters.names = ["param1", "id"] := by
  have plain : Filter.Plain heaviest.filter :=
    ⟨trivial, trivial, ⟨rfl, rfl, trivial, trivial⟩, trivial⟩
  obtain ⟨inserted, selected, _, _, _, _, _, _, saved, _⟩ := references_agree letters letter.name
  refine ⟨rfl, ⟨_, rfl, inserted writtenLetter _ rfl, rfl⟩,
    ⟨_, rfl, selected heaviest _ plain rfl, rfl⟩, _, _, _, _, rfl, ?_⟩
  obtain ⟨probe, update, batch⟩ := saved writtenLetter _ rfl
  exact ⟨probe, update, batch, rfl⟩

end SqlMapper
