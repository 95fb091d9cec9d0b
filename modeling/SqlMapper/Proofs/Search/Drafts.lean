import SqlMapper.Proofs.Search.Refusing

namespace SqlMapper

/-! Filters as callers put them together.

A filter can be put together condition by condition, or be written as a document.  What is
written of the conditions is read as the filter that they make up.
-/

/-- A condition on a field whose operands are given as documents. -/
inductive Draft where
  /-- Equality, or the test for null if the document is null. -/
  | equals (content : Json)
  | compares (comparison : Comparison) (content : Json)
  | between (low high : Json)
  | oneOf (content : Json)
  | noneOf (content : Json)
  | greatest (field source : String) (key : SourceKey) (filter : Option (List (String × Draft)))

namespace Draft

mutual

/-- Adds the condition to a filter, with the values that the documents stand for.  Where a list is
expected and the document is none, there is no call for it but `Filter.and`. -/
def add (filter : Filter) (field : String) : Draft → Filter
  | .equals .null => filter.isNull field
  | .equals content => filter.eq field (Value.ofJson content)
  | .compares comparison content => filter.compare comparison field (Value.ofJson content)
  | .between low high => filter.between field (Value.ofJson low) (Value.ofJson high)
  | .oneOf (.array contents) => filter.oneOf field (Value.ofItems contents)
  | .oneOf content => filter.and field (.oneOf (Value.ofJson content))
  | .noneOf (.array contents) => filter.noneOf field (Value.ofItems contents)
  | .noneOf content => filter.and field (.noneOf (Value.ofJson content))
  | .greatest name source _ none => filter.greatest field { field := name, source }
  | .greatest name source _ (some drafts) =>
    filter.greatest field (Greatest.among { field := name, source } (addAll .empty drafts))

def addAll (filter : Filter) : List (String × Draft) → Filter
  | [] => filter
  | (field, draft) :: rest => addAll (draft.add filter field) rest

end

mutual

/-- The condition that is added. -/
def expr : Draft → Expr
  | .equals content => .eq (Value.ofJson content)
  | .compares comparison content => .compare comparison (Value.ofJson content)
  | .between low high => .between (Value.ofJson low) (Value.ofJson high)
  | .oneOf content => .oneOf (Value.ofJson content)
  | .noneOf content => .noneOf (Value.ofJson content)
  | .greatest name source _ none => .greatest name source none
  | .greatest name source _ (some drafts) => .greatest name source (some (conditions drafts))

def conditions : List (String × Draft) → Filter
  | [] => []
  | (field, draft) :: rest => (field, draft.expr) :: conditions rest

end

mutual

theorem add_eq_and (filter : Filter) (field : String) :
    ∀ draft : Draft, draft.add filter field = filter.and field draft.expr
  | .equals content => by cases content <;> rfl
  | .compares comparison content => rfl
  | .between low high => rfl
  | .oneOf content => by cases content <;> rfl
  | .noneOf content => by cases content <;> rfl
  | .greatest name source key none => rfl
  | .greatest name source key (some drafts) => by
      rw [add, addAll_eq_append .empty drafts]
      rfl

/-- Conditions are added in their order, behind those that are there. -/
theorem addAll_eq_append (filter : Filter) :
    ∀ drafts : List (String × Draft), addAll filter drafts = filter ++ conditions drafts
  | [] => (List.append_nil filter).symm
  | (field, draft) :: rest => by
      rw [addAll, add_eq_and filter field draft, addAll_eq_append _ rest, Filter.and,
        List.append_assoc]
      rfl

end

mutual

/-- The condition as it is written. -/
def document : Draft → Json
  | .equals content => content
  | .compares comparison content => .object [(comparison.name, content)]
  | .between low high => .object [("between", .array [low, high])]
  | .oneOf content => .object [("inq", content)]
  | .noneOf content => .object [("nin", content)]
  | .greatest field source key none =>
    .object [("max", .object [("field", .text field), (key.name, .text source)])]
  | .greatest field source key (some drafts) =>
    .object [("max", .object [("field", .text field), (key.name, .text source),
      ("where", .object (distinctEntries (members drafts)))])]

def members : List (String × Draft) → List (String × Json)
  | [] => []
  | (field, draft) :: rest => (field, draft.document) :: members rest

end

/-- The document of a filter: an object, in which a key has one value. -/
def written (drafts : List (String × Draft)) : Json :=
  .object (distinctEntries (members drafts))

mutual

/-- No inner filter asks twice about a field, and no field is compared with an object that has
a single member. -/
def Clear : Draft → Prop
  | .equals content => ∀ member, content ≠ .object [member]
  | .greatest _ _ _ (some drafts) => AllClear drafts
  | _ => True

/-- Conditions that are clear, on fields that are pairwise different. -/
def AllClear : List (String × Draft) → Prop
  | [] => True
  | (field, draft) :: rest => field ∉ rest.map (·.1) ∧ draft.Clear ∧ AllClear rest

end

variable {drafts : List (String × Draft)}

theorem keys_members (drafts : List (String × Draft)) :
    (members drafts).map (·.1) = drafts.map (·.1) := by
  induction drafts with
  | nil => rfl
  | cons entry rest ih => rw [members, List.map_cons, List.map_cons, ih]

theorem nodup_of_allClear (clear : AllClear drafts) : (drafts.map (·.1)).Nodup := by
  induction drafts with
  | nil => exact List.nodup_nil
  | cons entry rest ih =>
      obtain ⟨absent, _, others⟩ := clear
      exact List.nodup_cons.mpr ⟨absent, ih others⟩

theorem distinctEntries_members (clear : AllClear drafts) :
    distinctEntries (members drafts) = members drafts :=
  distinctEntries_of_nodup (keys_members drafts ▸ nodup_of_allClear clear)

mutual

theorem ofJson_document : ∀ draft : Draft, draft.Clear → Expr.ofJson draft.document = .ok draft.expr
  | .equals content, clear => by
      rw [document, Expr.ofJson]
      · rfl
      · exact fun name operand single => clear (name, operand) single
  | .compares comparison content, _ => by
      have known : Operator.ofName? comparison.name = some (.compare comparison) := by
        cases comparison <;> rfl
      rw [document, Expr.ofJson_known known, Expr.ofOperand, expr]
  | .between low high, _ => by
      have known : Operator.ofName? "between" = some .between := rfl
      rw [document, Expr.ofJson_known known, Expr.ofOperand, expr]
  | .oneOf content, _ => by
      have known : Operator.ofName? "inq" = some .oneOf := rfl
      rw [document, Expr.ofJson_known known, Expr.ofOperand, expr]
  | .noneOf content, _ => by
      have known : Operator.ofName? "nin" = some .noneOf := rfl
      rw [document, Expr.ofJson_known known, Expr.ofOperand, expr]
  | .greatest field source key none, _ => by
      rw [document, Expr.ofJson_known Operator.ofName?_max]
      cases key <;> exact Expr.ofOperand_greatest rfl rfl rfl
  | .greatest field source key (some drafts), clear => by
      have inner := ofMembers_members drafts clear
      have nested : (Filter.ofJson (.object (distinctEntries (members drafts)))).map some =
          .ok (some (conditions drafts)) := by
        rw [distinctEntries_members clear, Filter.ofJson, inner]
        rfl
      rw [document, Expr.ofJson_known Operator.ofName?_max]
      cases key <;> exact Expr.ofOperand_greatest rfl rfl nested

theorem ofMembers_members : ∀ drafts : List (String × Draft), AllClear drafts →
    Filter.ofMembers (members drafts) = .ok (conditions drafts)
  | [], _ => rfl
  | (field, draft) :: rest, clear => by
      rw [members, Filter.ofMembers, ofJson_document draft clear.2.1,
        ofMembers_members rest clear.2.2]
      rfl

end

/-- What is written of clear conditions is read as their filter. -/
theorem ofJson_written (clear : AllClear drafts) :
    Filter.ofJson (written drafts) = .ok (addAll .empty drafts) := by
  rw [written, distinctEntries_members clear, Filter.ofJson, ofMembers_members drafts clear,
    addAll_eq_append, Filter.empty, List.nil_append]

end Draft

/-- What is written of conditions on different fields is read as the filter that they are put
together to, in their order.  A document is refused exactly if something in it cannot be read,
however deep it stands. -/
theorem drafts_read_and_faults_refused :
    (∀ drafts, Draft.AllClear drafts →
      Filter.ofJson (Draft.written drafts) = .ok (Draft.addAll .empty drafts)) ∧
    ∀ document, (∃ error, Filter.ofJson document = .error error) ↔ document.Refused :=
  ⟨fun _ clear => Draft.ofJson_written clear, Filter.failing_iff⟩

/-- An inner filter is read with an empty object and a pair of bounds in it, and the filter
is refused if one bound is taken away. -/
theorem drafts_read_and_faults_refused_within :
    Filter.ofJson (.object [
      ("removed", .null),
      ("version", .object [("max", .object [
        ("field", .text "version"), ("fromTable", .text "history"),
        ("where", .object [
          ("name", .object [("between", .array [.text "a", .text "f"])]),
          ("tags", .object [("inq", .array [.object [], .bool true])])])])])]) =
      .ok ((Filter.empty.isNull "removed").greatest "version"
        (Greatest.among { field := "version", source := "history" }
          ((Filter.empty.between "name" (.text "a") (.text "f")).oneOf "tags"
            [.json (.object []), .bool true]))) ∧
    ∃ error, Filter.ofJson (.object [
      ("removed", .null),
      ("version", .object [("max", .object [
        ("field", .text "version"), ("fromTable", .text "history"),
        ("where", .object [("name", .object [("between", .array [.text "a"])])])])])]) =
      .error error := by
  constructor
  · refine drafts_read_and_faults_refused.1 [
      ("removed", .equals .null),
      ("version", .greatest "version" "history" .long (some [
        ("name", .between (.text "a") (.text "f")),
        ("tags", .oneOf (.array [.object [], .bool true]))]))] ?_
    simp [Draft.AllClear, Draft.Clear]
  · refine (drafts_read_and_faults_refused.2 _).mpr ?_
    have unpaired : ∀ low high, Json.array [.text "a"] ≠ .array [low, high] := by simp
    have faulty := Json.Faulty.bounds unpaired
    exact .nested (.tail _ List.mem_cons_self) rfl (.condition List.mem_cons_self faulty)

end SqlMapper
