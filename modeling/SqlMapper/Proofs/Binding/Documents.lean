import SqlMapper.Proofs.Binding.Outcome

namespace SqlMapper

/-! Documents as values and back.

Lists are taken apart and put together again, and objects stay whole.  What gets
lost on the way are whole numbers that fit 64 bits only without a sign: a value
has none, and takes the nearest floating-point number for them.
-/

open Calendar (Instant)
open Binding (outcome)

mutual

/-- Whether the whole numbers outside of objects fit 64 bits with a sign. -/
def Json.Signed : Json → Prop
  | .number (.whole value _ _) => value < 0x8000000000000000
  | .array items => AllSigned items
  | .null | .bool _ | .number (.real _ _) | .text _ | .object _ => True

def Json.AllSigned : List Json → Prop
  | [] => True
  | item :: rest => item.Signed ∧ AllSigned rest

end

namespace Value

theorem toJsonWith_ofNumber_iff (stamp : Instant → String) (number : Json.Number) :
    (ofNumber number).toJsonWith stamp = .number number ↔ (Json.number number).Signed := by
  cases number with
  | whole value lower upper =>
      by_cases signed : value < 0x8000000000000000
      · have same : (Int64.ofInt value).toInt = value :=
          Int64.toInt_ofInt_of_le (by omega) (by omega)
        simp [ofNumber, signed, toJsonWith, Json.Number.ofInt64, Json.Signed, same]
      · -- A floating-point number becomes a floating-point number or null.
        simp only [ofNumber, signed, if_false, toJsonWith, Json.Signed, iff_false]
        unfold Json.Number.ofFloat?
        split <;> simp
  | real value finite =>
      simp [ofNumber, toJsonWith, Json.Number.ofFloat?, finite, Json.Signed]

mutual

theorem toJsonWith_ofJson_iff (stamp : Instant → String) :
    ∀ document : Json, (ofJson document).toJsonWith stamp = document ↔ document.Signed
  | .number number => toJsonWith_ofNumber_iff stamp number
  | .array items => by
      simp only [ofJson, toJsonWith, Json.array.injEq, Json.Signed]
      exact itemsToJsonWith_ofItems_iff stamp items
  | .null | .bool _ | .text _ | .object _ => by
      simp [ofJson, toJsonWith, Json.Signed]

theorem itemsToJsonWith_ofItems_iff (stamp : Instant → String) :
    ∀ items : List Json, itemsToJsonWith stamp (ofItems items) = items ↔ Json.AllSigned items
  | [] => by simp [ofItems, itemsToJsonWith, Json.AllSigned]
  | item :: rest => by
      simp only [ofItems, itemsToJsonWith, List.cons.injEq, Json.AllSigned]
      rw [toJsonWith_ofJson_iff stamp item, itemsToJsonWith_ofItems_iff stamp rest]

end

theorem isNull_ofJson {document : Json} (given : document ≠ .null) :
    (ofJson document).isNull = false := by
  cases document with
  | null => exact absurd rfl given
  | number number =>
      cases number with
      | whole value _ _ =>
          simp only [ofJson, ofNumber]
          split <;> rfl
      | real value _ => rfl
  | bool _ | text _ | array _ | object _ => rfl

end Value

theorem Record.ofJson_single (name : String) (document : Json) :
    ofJson (.object [(name, document)]) = .ok (empty.set name (Value.ofJson document)) := rfl

theorem Operand.stored_document {field : Field} (serialized : field.type.isSerialized = true)
    (value : Value) : stored field value = .ok (.text value.toJson.compact) := by
  cases type : field.type with
  | json | array item => simp only [stored, type]
  | string | text | number | date | boolean | point =>
      simp [type, FieldType.isSerialized] at serialized

theorem Field.other_of_serialized {field : Field} (serialized : field.type.isSerialized = true) :
    field.type ≠ .boolean := by
  intro boolean
  simp [boolean, FieldType.isSerialized] at serialized

theorem Operand.outcome_compile_document {field : Field} {value : Value}
    (serialized : field.type.isSerialized = true) (given : value.isNull = false)
    (parameters : Parameters) :
    outcome (compile (some field) value) parameters =
      (.ok (.parameter (Parameters.nameAt parameters.next)),
        parameters.addNamed (Parameters.nameAt parameters.next) (.text value.toJson.compact)) := by
  rw [outcome_compile_stored given (Field.other_of_serialized serialized),
    stored_document serialized]

/-- A document comes back from a value if and only if its whole numbers outside of
objects fit 64 bits with a sign, and then a field for documents binds its text. -/
theorem documents_kept_iff_signed (document : Json) :
    ((Value.ofJson document).toJson = document ↔ document.Signed) ∧
    ∀ field : Field, field.type.isSerialized = true → document.Signed → document ≠ .null →
      ∃ record value, Record.ofJson (.object [(field.name, document)]) = .ok record ∧
        record.get? field.name = some value ∧
        ∀ parameters, outcome (Operand.compile (some field) value) parameters =
          (.ok (.parameter (Parameters.nameAt parameters.next)),
            parameters.addNamed (Parameters.nameAt parameters.next) (.text document.compact)) := by
  have kept : (Value.ofJson document).toJson = document ↔ document.Signed :=
    Value.toJsonWith_ofJson_iff _ document
  refine ⟨kept, fun field serialized signed given => ?_⟩
  refine ⟨_, _, Record.ofJson_single field.name document, Record.get?_set_self _ _ _,
    fun parameters => ?_⟩
  rw [Operand.outcome_compile_document serialized (Value.isNull_ofJson given),
    kept.mpr signed]

def listField : Field := { name := "list", type := .array .json }

/-- The number just beyond 64 bits with a sign. -/
def beyondSigned : Json :=
  .number (.whole 0x8000000000000000 (by decide) (by decide))

/-- Within an object the number stays as it is. -/
theorem documents_kept_within_object :
    (Json.array [.null, .object [("a", beyondSigned)]]).Signed ∧
      ∃ record value,
        Record.ofJson (.object [("list", .array [.null, .object [("a", beyondSigned)]])]) =
          .ok record ∧
        record.get? "list" = some value ∧
        outcome (Operand.compile (some listField) value) .empty =
          (.ok (.parameter "param1"), Parameters.empty.addNamed "param1"
            (.text "[null,\x7b\"a\":9223372036854775808\x7d]")) := by
  have signed : (Json.array [.null, .object [("a", beyondSigned)]]).Signed :=
    ⟨trivial, trivial, trivial⟩
  obtain ⟨record, value, read, found, bound⟩ :=
    (documents_kept_iff_signed _).2 listField rfl signed (by simp)
  exact ⟨signed, record, value, read, found, bound .empty⟩

/-- In a list the number is rounded, and the text of the list is another one. -/
theorem documents_may_be_rounded :
    (Value.ofJson (.array [beyondSigned])).toJson ≠ .array [beyondSigned] ∧
      (Json.array [beyondSigned]).compact = "[9223372036854775808]" ∧
      ∃ record value, Record.ofJson (.object [("list", .array [beyondSigned])]) = .ok record ∧
        record.get? "list" = some value ∧
        outcome (Operand.compile (some listField) value) .empty =
          (.ok (.parameter "param1"),
            Parameters.empty.addNamed "param1" (.text "[9.223372036854776e+18]")) := by
  have rounded : (Value.ofJson (.array [beyondSigned])).toJson.compact =
    "[9.223372036854776e+18]" := by decide +kernel
  have exact : (Json.array [beyondSigned]).compact = "[9223372036854775808]" := by decide +kernel
  refine ⟨fun same => ?_, exact, _, _, Record.ofJson_single _ _, Record.get?_set_self _ _ _, ?_⟩
  · rw [same, exact] at rounded
    revert rounded
    decide
  · rw [Operand.outcome_compile_document rfl rfl, rounded]
    rfl

end SqlMapper
