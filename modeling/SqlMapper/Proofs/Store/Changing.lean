import SqlMapper.Proofs.Store.Saving

namespace SqlMapper

/-! Changing a row that has to exist.

The row is looked for before the record is saved, and saving plans anew: it may
add a row although one was found before.  The main theorem says exactly when.
-/

open Store StoreOperation

variable {σ : Type} {server : Server commands σ} {state : σ} {registry : Registry} {name : String}
  {model : Model} {record : Record}

def Statement.addsRow : Statement → Bool
  | .insert .. | .insertKeyed .. => true
  | _ => false

def Command.addsRow : Command → Bool
  | .statement prepared => prepared.statement.addsRow
  | .batch together => together.statements.any Statement.addsRow

def addsRow (exchanges : List (Exchange commands)) : Bool :=
  exchanges.any fun exchange => Command.addsRow exchange.request

/-- The key of the row to be changed, and the record that has it. -/
def Model.target (model : Model) (record : Record) : Option Value → Value × Record
  | some key => (key, record.set model.key key)
  | none => ((model.keyValue? record).getD .null, record)

/-- The database, asked for the rows with a key, goes on from `after` with a
number of rows that meets the condition. -/
def Counted (server : Server commands σ) (registry : Registry) (model : Model) (key : Value)
    (state after : σ) (condition : Int64 → Prop) : Prop :=
  ∃ rows, server (.statement (Prepared.probeOf registry model key)) state = (.ok rows, after) ∧
    condition (countOf rows)

theorem not_counted_of_refused {key : Value} {after : σ} {rejection : Rejection}
    (refused : server (.statement (Prepared.probeOf registry model key)) state =
      (.error rejection, after)) (left : σ) (condition : Int64 → Prop) :
    ¬ Counted server registry model key state left condition := by
  rintro ⟨rows, answered, _⟩
  rw [refused] at answered
  cases answered

theorem counted_iff_of_answered {key : Value} {after : σ} {rows : List Row}
    (answered : server (.statement (Prepared.probeOf registry model key)) state = (.ok rows, after))
    (left : σ) (condition : Int64 → Prop) :
    Counted server registry model key state left condition ↔
      after = left ∧ condition (countOf rows) := by
  constructor
  · rintro ⟨others, again, holds⟩
    rw [answered] at again
    cases again
    exact ⟨rfl, holds⟩
  · rintro ⟨rfl, holds⟩
    exact ⟨rows, answered, holds⟩

theorem addsRow_probe (registry : Registry) (model : Model) (key : Value) (answer : Answer)
    (rest : List (Exchange commands)) :
    addsRow ({ request := .statement (Prepared.probeOf registry model key), answer } :: rest) =
      addsRow rest := rfl

theorem save_addsRow_iff (found : registry.model name = .ok model) (record : Record)
    (server : Server commands σ) (state : σ) :
    addsRow (ending (save registry name record) server state).exchanges = true ↔
      (∃ bound, (model.assignments record).complete .empty = .ok bound) ∧
      ∀ key, (model.keyValue? record).filter Value.isUsableKey = some key →
        ∃ after, Counted server registry model key state after (· < 1) := by
  rcases bound : (model.assignments record).complete .empty with error | ⟨assignments, parameters⟩
  · rw [ending_save_refused found bound]
    simp [addsRow]
  cases usable : (model.keyValue? record).filter Value.isUsableKey with
  | none =>
      rw [save_eq_send found usable bound, (ending_bind_quiet _ (quiet_keyed _ _ _)).1,
        exchanges_send]
      simp [addsRow, Command.addsRow, Statement.addsRow]
  | some key =>
      rw [save_eq_upserting found usable bound, (ending_bind_quiet _ (quiet_keyed _ _ _)).1,
        upserting]
      rcases counted : server (.statement (Prepared.probeOf registry model key)) state with
        ⟨rejection | rows, after⟩
      · rw [ending_bind_error (ending_send_error counted)]
        simp [addsRow, Command.addsRow, Prepared.probeOf, Statement.addsRow,
          not_counted_of_refused counted]
      · rw [ending_bind_ok (ending_send_ok counted), exchanges_send]
        by_cases present : 1 ≤ countOf rows
        · have many : ¬ countOf rows < 1 := Int64.not_lt.mpr present
          simp [addsRow, Command.addsRow, Prepared.probeOf, Prepared.updating, Statement.addsRow,
            present, many, counted_iff_of_answered counted]
        · have none : countOf rows < 1 := Int64.not_le.mp present
          simp [addsRow, Command.addsRow, Prepared.inserting, Statement.addsRow, present, none,
            counted_iff_of_answered counted]

/-- The row is counted, and the record is saved if there is one. -/
theorem updateAttributes_eq (found : registry.model name = .ok model) (key : Option Value) :
    updateAttributes registry name key record =
      (send (.statement (Prepared.probeOf registry model (model.target record key).1)) >>=
        fun counted =>
          if 1 ≤ countOf counted then save registry name (model.target record key).2
          else throw (.notFound model.tableName model.key (model.target record key).1)) := by
  have probed (key : Value) : hasKey registry name key =
      (send (.statement (Prepared.probeOf registry model key)) >>=
        fun counted => pure (decide (1 ≤ countOf counted))) := by
    unfold hasKey Prepared.probe
    rw [found]
    rfl
  unfold updateAttributes
  rw [found]
  cases key with
  | none => simp [compiled, probed, Model.target]
  | some key => simp [compiled, probed, Model.target]

theorem updateAttributes_unknown {error : CompileError}
    (missing : registry.model name = .error error) (key : Option Value) :
    ending (updateAttributes registry name key record) server state =
      { value := .error (.compile error), exchanges := [], state } := by
  unfold updateAttributes
  rw [missing]
  rfl

theorem updateAttributes_addsRow_iff (server : Server commands σ) (state : σ) (registry : Registry)
    (name : String) (key : Option Value) (record : Record) :
    addsRow (ending (updateAttributes registry name key record) server state).exchanges = true ↔
      ∃ model middle, registry.model name = .ok model ∧
        Counted server registry model (model.target record key).1 state middle (1 ≤ ·) ∧
        (∃ bound, (model.assignments (model.target record key).2).complete .empty = .ok bound) ∧
        ∀ usable,
          (model.keyValue? (model.target record key).2).filter Value.isUsableKey = some usable →
          ∃ after, Counted server registry model usable middle after (· < 1) := by
  cases found : registry.model name with
  | error error =>
      rw [updateAttributes_unknown found]
      simp [addsRow]
  | ok model =>
      rw [updateAttributes_eq found]
      rcases counted : server (.statement
          (Prepared.probeOf registry model (model.target record key).1)) state with
        ⟨rejection | rows, after⟩
      · rw [ending_bind_error (ending_send_error counted)]
        simp [addsRow, Command.addsRow, Prepared.probeOf, Statement.addsRow,
          not_counted_of_refused counted]
      · rw [ending_bind_ok (ending_send_ok counted)]
        by_cases present : 1 ≤ countOf rows
        · have saved := save_addsRow_iff found (model.target record key).2 server after
          rw [if_pos present]
          simp only [List.cons_append, List.nil_append, addsRow_probe]
          rw [saved]
          constructor
          · rintro ⟨bound, gone⟩
            exact ⟨model, after, rfl, ⟨rows, counted, present⟩, bound, gone⟩
          · rintro ⟨other, middle, same, ⟨others, again, _⟩, bound, gone⟩
            cases same
            rw [counted] at again
            cases again
            exact ⟨bound, gone⟩
        · rw [if_neg present, ending_throw]
          simp [addsRow, Command.addsRow, Prepared.probeOf, Statement.addsRow, present,
            counted_iff_of_answered counted]

def scriptedStore : Server commands (List Answer) :=
  fun command answers => scripted (Command.call command) answers

def reporting (column : String) (number : Int64) : Row :=
  SortedTable.empty.insert column (.int number)

def person : Model where
  name := "Person"
  fields := [{ name := "name", type := .string }]

def people : Registry :=
  { settings := {}, table := SortedTable.empty.insert person.name person }

/-- The row is deleted between the two looks at it, so the second one leads to an insertion. -/
theorem updateAttributes_may_add :
    ¬ ∀ (registry : Registry) (name : String) (key : Option Value) (record : Record)
      (answers : List Answer),
      addsRow (ending (updateAttributes registry name key record) scriptedStore answers).exchanges =
        false := by
  intro never
  have adds := never people person.name (some (.int 7)) (Record.empty.set "name" (.text "Ada"))
    [.ok [reporting "cnt" 1], .ok [reporting "cnt" 0], .ok [reporting "pkid" 7]]
  revert adds
  decide

end SqlMapper
