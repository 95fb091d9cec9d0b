import SqlMapper.Proofs.Binding.Outcome

namespace SqlMapper

/-! How bindings number what they bind.

A binding draws the next names, one after another, and what it makes mentions
exactly these, in the order in which they were drawn.  That goes through
sequencing, so it is shown of an operand first and then of all that is put
together from operands.
-/

variable {α β : Type} {earlier later latest : Parameters} {count more : Nat}

namespace Parameters

/-- Made-up names one after another. -/
def namesFrom (first count : Nat) : List String :=
  (List.range' first count).map nameAt

theorem namesFrom_append (first count more : Nat) :
    namesFrom first count ++ namesFrom (first + count) more = namesFrom first (count + more) := by
  rw [namesFrom, namesFrom, ← List.map_append, List.range'_append_1, namesFrom]

theorem nodup_namesFrom (first count : Nat) : (namesFrom first count).Nodup :=
  List.Pairwise.map nameAt (fun _ _ different same => different (nameAt_injective same))
    (List.nodup_range' 1)

/-- Parameters that differ from earlier ones in those that were bound since under
the next names. -/
structure Continues (later earlier : Parameters) (count : Nat) : Prop where
  kept : later.Extends earlier
  names : later.names = earlier.names ++ namesFrom earlier.next count
  next : later.next = earlier.next + count

theorem Continues.refl (parameters : Parameters) : parameters.Continues parameters 0 where
  kept := .refl parameters
  names := (List.append_nil _).symm
  next := rfl

theorem Continues.trans (second : latest.Continues later more)
    (first : later.Continues earlier count) : latest.Continues earlier (count + more) where
  kept := second.kept.trans first.kept
  names := by
    rw [second.names, first.names, first.next, List.append_assoc, namesFrom_append]
  next := by
    rw [second.next, first.next, Nat.add_assoc]

theorem continues_add (parameters : Parameters) (value : Value) :
    (parameters.add value).2.Continues parameters 1 where
  kept := extends_addNamed _ _ _
  names := names_add parameters value
  next := rfl

end Parameters

open Parameters (namesFrom)

/-- Succeed or fail, a binding draws names one after another, and the names in what
it makes are those in hand followed by those drawn. -/
def Binding.Draws (inHand : List String) (binding : Binding α) (names : α → List String) : Prop :=
  ∀ before, ∃ count, (outcome binding before).2.Continues before count ∧
    ∀ result, (outcome binding before).1 = .ok result →
      names result = inHand ++ namesFrom before.next count

/-- Succeed or fail, a binding keeps what is bound and numbers on from there. -/
def Binding.Numbers (binding : Binding α) : Prop :=
  ∀ before, ∃ count, (outcome binding before).2.Continues before count

namespace Binding.Draws

variable {inHand : List String} {binding : Binding α} {next : α → Binding β}
  {middle : α → List String} {names : β → List String}

theorem numbers (draws : Draws inHand binding middle) : Numbers binding :=
  fun before => (draws before).imp fun _ drawn => drawn.1

theorem pure {value : β} (same : names value = inHand) :
    Draws inHand (Pure.pure value : Binding β) names := by
  intro before
  refine ⟨0, .refl before, fun result done => ?_⟩
  cases done
  rw [same]
  exact (List.append_nil _).symm

theorem throw (error : CompileError) :
    Draws inHand (MonadExcept.throw error : Binding β) names := by
  intro before
  refine ⟨0, .refl before, fun result done => ?_⟩
  cases done

theorem bind (first : Draws inHand binding middle)
    (second : ∀ value, Draws (middle value) (next value) names) :
    Draws inHand (binding >>= next) names := by
  intro before
  obtain ⟨count, grown, made⟩ := first before
  rcases ran : outcome binding before with ⟨error | value, after⟩
  · rw [outcome_bind_error ran]
    rw [ran] at grown
    exact ⟨count, grown, nofun⟩
  · rw [outcome_bind_ok ran]
    rw [ran] at grown made
    obtain ⟨more, grownAgain, madeAgain⟩ := second value after
    refine ⟨count + more, grownAgain.trans grown, fun result done => ?_⟩
    rw [madeAgain result done, made value rfl, grown.next, List.append_assoc,
      Parameters.namesFrom_append]

/-- A binding that starts with nothing in hand does the same behind what is. -/
theorem behind (draws : Draws [] binding middle) (inHand : List String) :
    Draws inHand binding fun value => inHand ++ middle value := by
  intro before
  obtain ⟨count, grown, made⟩ := draws before
  refine ⟨count, grown, fun result done => ?_⟩
  rw [← List.nil_append (namesFrom before.next count), ← made result done]

theorem mapM {γ : Type} {items : List γ} {each : γ → Binding α}
    (draws : ∀ item ∈ items, Draws [] (each item) middle) :
    Draws [] (items.mapM each) fun results => results.flatMap middle := by
  induction items with
  | nil => exact pure rfl
  | cons item rest ih =>
      obtain ⟨here, later⟩ := List.forall_mem_cons.mp draws
      rw [List.mapM_cons]
      refine here.bind fun result => ((ih later).behind _).bind fun results => ?_
      exact pure List.flatMap_cons

/-- What a completed binding makes mentions all that is bound, by its number. -/
theorem complete {parameters : Parameters} {result : α} (draws : Draws [] binding middle)
    (done : binding.complete .empty = .ok (result, parameters)) :
    middle result = parameters.names ∧ parameters.names = namesFrom 1 parameters.size := by
  have ran := outcome_of_complete done
  obtain ⟨count, grown, made⟩ := draws .empty
  rw [ran] at grown made
  have drawn : parameters.names = namesFrom 1 count := grown.names
  have size : parameters.size = count := by
    have length := congrArg List.length drawn
    simpa [Parameters.names, Parameters.size, namesFrom] using length
  exact ⟨(made result rfl).trans drawn.symm, size ▸ drawn⟩

end Binding.Draws

theorem Operand.draws_bind (value : Value) :
    Binding.Draws [] (Operand.bind value) fun operand => operand.sql.parameters := by
  intro before
  refine ⟨1, before.continues_add value, fun result done => ?_⟩
  cases done
  rfl

theorem Operand.draws_compile (field : Option Field) (value : Value) :
    Binding.Draws [] (compile field value) fun operand => operand.sql.parameters := by
  unfold compile
  split
  · exact .pure rfl
  · cases field with
    | none => exact draws_bind value
    | some field =>
        dsimp only
        split
        · exact .pure (by cases value.truthy <;> rfl)
        · cases stored field value with
          | ok held => exact draws_bind held
          | error error => exact .throw error

theorem Operand.draws_compileList (field : Option Field) (values : Value) :
    Binding.Draws [] (compileList field values) fun operands =>
      operands.flatMap fun operand => operand.sql.parameters := by
  unfold compileList
  split
  · exact .mapM fun item _ => draws_compile field item
  · exact (draws_bind values).bind fun operand => .pure (by simp)

theorem Expr.draws_compileOperand (field : Option Field) (expr : Expr) :
    Binding.Draws [] (compileOperand field expr) fun fragment => fragment.sql.parameters := by
  unfold compileOperand
  split
  · exact (Operand.draws_compile field _).bind fun operand => .pure rfl
  · exact (Operand.draws_compile field _).bind fun operand => .pure rfl
  · refine (Operand.draws_compile field _).bind fun low => ?_
    refine ((Operand.draws_compile field _).behind _).bind fun high => .pure ?_
    simp [Fragment.sql]
  · refine (Operand.draws_compileList field _).bind fun operands => .pure ?_
    simp [Fragment.sql, List.flatMap_map]
  · refine (Operand.draws_compileList field _).bind fun operands => .pure ?_
    simp [Fragment.sql, List.flatMap_map]
  · exact .pure rfl

namespace Condition

theorem parameters_oneOf (column : String) (items : List Operand) :
    (sql (.oneOf column items)).parameters =
      items.flatMap fun operand => operand.sql.parameters := by
  cases items with
  | nil => rfl
  | cons first others => simp [sql, List.flatMap_map]

theorem parameters_noneOf (column : String) (items : List Operand) :
    (sql (.noneOf column items)).parameters =
      items.flatMap fun operand => operand.sql.parameters := by
  cases items with
  | nil => rfl
  | cons first others => simp [sql, List.flatMap_map]

theorem parameters_greatest (column aggregated source : String) (nested : List Condition) :
    (sql (.greatest column aggregated source nested)).parameters = (body nested).parameters := by
  cases nested with
  | nil => rfl
  | cons first others => simp [sql, body]

mutual

theorem draws_compile (model : Model) (column : String) : ∀ expr : Expr,
    Binding.Draws [] (compile model column expr) fun condition => condition.sql.parameters
  | .eq value => by
      refine (Operand.draws_compile _ value).bind fun operand => .pure ?_
      split
      · next absent => rw [absent]; rfl
      · simp [sql]
  | .compare comparison value => by
      refine (Operand.draws_compile _ value).bind fun operand => .pure ?_
      split
      · next absent => rw [absent.2]; rfl
      · simp [sql]
  | .between low high => by
      refine (Operand.draws_compile _ low).bind fun low => ?_
      refine ((Operand.draws_compile _ high).behind _).bind fun high => .pure ?_
      simp [sql]
  | .oneOf values =>
      (Operand.draws_compileList _ values).bind fun items => .pure (parameters_oneOf column items)
  | .noneOf values =>
      (Operand.draws_compileList _ values).bind fun items => .pure (parameters_noneOf column items)
  | .greatest aggregated source none => .pure rfl
  | .greatest aggregated source (some filter) =>
      (draws_compileAll model filter).bind fun nested =>
        .pure (parameters_greatest column aggregated source nested)

theorem draws_compileAll (model : Model) : ∀ filter : List (String × Expr),
    Binding.Draws [] (compileAll model filter) fun conditions => (body conditions).parameters
  | [] => .pure rfl
  | (column, expr) :: rest => by
      refine (draws_compile model column expr).bind fun condition => ?_
      refine ((draws_compileAll model rest).behind _).bind fun conditions => .pure ?_
      simp [body, sqlAll]

end

end Condition

/-- The names that the values of assignments mention. -/
def Assignment.mentioned (assignments : List Assignment) : List String :=
  assignments.flatMap fun assignment => assignment.operand.sql.parameters

theorem Model.draws_assignments (model : Model) (record : Record) :
    Binding.Draws [] (model.assignments record) Assignment.mentioned :=
  .mapM fun (field, value) _ =>
    (Operand.draws_compile (some field) value).bind fun _ => .pure rfl

end SqlMapper
