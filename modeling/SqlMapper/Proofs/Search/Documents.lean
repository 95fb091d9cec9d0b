import SqlMapper.Proofs.Binding.Documents
import SqlMapper.Proofs.Json.Sameness
import SqlMapper.Proofs.Search.Meaning

namespace SqlMapper

/-! Searching for documents.

A column for documents holds their text.  A document is found by an equal one exactly
if the two are the same: members stand in the same order and zeros have the same sign.
-/

open Binding (outcome)
open Search (Collation Truth truth?)

variable {field : Field} {left right value : Value} {model : Model} {collation : Collation}
  {row : String → Value} {filter : Filter}

/-- The filter is compiled to a clause that is true of the row. -/
def Filter.Finds (model : Model) (collation : Collation) (row : String → Value)
    (filter : Filter) : Prop :=
  ∃ conditions after, outcome (Condition.compileAll model filter) .empty = (.ok conditions, after) ∧
    truth? { row, parameters := after, collation }
      ((Condition.clause? conditions).map (Sql.render .sqlServer)) = some .holds

theorem Filter.finds_iff_accepts {conditions : List Condition} {after : Parameters}
    (direct : ∀ entry ∈ filter, entry.2.IsDirect)
    (compiled : outcome (Condition.compileAll model filter) .empty = (.ok conditions, after)) :
    filter.Finds model collation row ↔ filter.Accepts model collation row := by
  obtain ⟨_, predicates, said, meaning⟩ :=
    Condition.predicates_of_compileAll direct Parameters.fresh_empty compiled
  have read := truth?_of_compileAll (plain_of_direct direct) compiled said
    { row, parameters := after, collation }
  rw [← meaning { row, parameters := after, collation } (.refl after)]
  constructor
  · rintro ⟨_, _, same, holds⟩
    cases compiled.symm.trans same
    rw [read] at holds
    simpa using holds
  · intro holds
    refine ⟨conditions, after, compiled, ?_⟩
    rw [read, Truth.all_eq_holds.mpr (by simpa using holds)]

theorem Field.bindsText_of_document (serialized : field.type.isSerialized = true)
    (given : value.isNull = false) : field.BindsText value value.toJson.compact :=
  Operand.outcome_compile_document serialized given

theorem Field.compared_document (serialized : field.type.isSerialized = true)
    (given : value.isNull = false) :
    value.compared (some field) = .text value.toJson.compact := by
  rw [Value.compared, given]
  exact Operand.compared_of_stored (other_of_serialized serialized)
    (Operand.stored_document serialized value)

theorem Field.outcome_compile_isOk (serialized : field.type.isSerialized = true) (value : Value)
    (parameters : Parameters) :
    ∃ operand after,
      outcome (Operand.compile (some field) value) parameters = (.ok operand, after) := by
  cases given : value.isNull with
  | true => exact ⟨_, _, Operand.outcome_compile_null given _⟩
  | false => exact ⟨_, _, Operand.outcome_compile_document serialized given parameters⟩

theorem Condition.compileAll_document (declared : model.field? field.name = some field)
    (serialized : field.type.isSerialized = true) (value : Value) :
    ∃ conditions after, outcome (compileAll model [(field.name, .eq value)]) .empty =
      (.ok conditions, after) := by
  obtain ⟨operand, after, bound⟩ := field.outcome_compile_isOk serialized value .empty
  have compiled : outcome (compile model field.name (.eq value)) .empty =
      (.ok (if operand = .null then .isNull field.name else .equals field.name operand),
        after) := by
    rw [compile, declared, Binding.outcome_bind_ok bound]
    rfl
  refine ⟨[if operand = .null then .isNull field.name else .equals field.name operand], after, ?_⟩
  rw [compileAll, Binding.outcome_bind_ok compiled]
  rfl

theorem Field.outcome_eq_iff (serialized : field.type.isSerialized = true)
    (equal : left.toJson.same right.toJson = true) :
    (∀ parameters, outcome (Operand.compile (some field) left) parameters =
        outcome (Operand.compile (some field) right) parameters) ↔
      left.isNull = right.isNull ∧ left.toJson = right.toJson := by
  cases absent : left.isNull <;> cases missing : right.isNull
  · have bound := field.bindsText_of_document serialized absent
    have alike := field.bindsText_of_document serialized missing
    rw [← Json.compact_eq_iff equal]
    constructor
    · intro same
      have texts := same .empty
      rw [bound, alike] at texts
      simpa [Parameters.addNamed] using texts
    · rintro ⟨-, same⟩ parameters
      rw [bound, alike, same]
  · refine iff_of_false (fun same => ?_) (by simp)
    have texts := same .empty
    rw [field.bindsText_of_document serialized absent, Operand.outcome_compile_null missing] at texts
    cases texts
  · refine iff_of_false (fun same => ?_) (by simp)
    have texts := same .empty
    rw [field.bindsText_of_document serialized missing, Operand.outcome_compile_null absent] at texts
    cases texts
  · rw [Value.isNull_iff] at absent missing
    simp [absent, missing]

theorem Field.finds_document_iff (declared : model.field? field.name = some field)
    (serialized : field.type.isSerialized = true)
    (exact : ∀ text other, collation.equal (.text text) (.text other) = true ↔ text = other)
    (equal : left.toJson.same right.toJson = true)
    (held : row field.name = left.compared (some field)) :
    Filter.Finds model collation row [(field.name, .eq right)] ↔
      left.isNull = right.isNull ∧ left.toJson = right.toJson := by
  obtain ⟨_, _, compiled⟩ := Condition.compileAll_document declared serialized right
  rw [Filter.finds_iff_accepts (by simp [Expr.IsDirect]) compiled, Filter.Accepts,
    List.forall_mem_singleton, Expr.Accepts, held, declared, Value.isNull_compared]
  cases absent : left.isNull <;> cases missing : right.isNull
  · rw [field.compared_document serialized absent, field.compared_document serialized missing,
      exact, Json.compact_eq_iff equal]
    simp
  · simp
  · simp
  · rw [Value.isNull_iff] at absent missing
    simp [absent, missing]

/-- Values with equal documents are bound alike exactly if the documents are the same and
both values or none are null.  Exactly then a search for one of them finds a row that holds
what the other is stored as, where texts are compared as such. -/
theorem equal_documents_alike_iff (serialized : field.type.isSerialized = true)
    (equal : left.toJson.same right.toJson = true) :
    (∀ value, value.isNull = false → field.BindsText value value.toJson.compact) ∧
    ((∀ parameters, outcome (Operand.compile (some field) left) parameters =
        outcome (Operand.compile (some field) right) parameters) ↔
      left.isNull = right.isNull ∧ left.toJson = right.toJson) ∧
    ∀ {model : Model} {collation : Collation} {row : String → Value},
      model.field? field.name = some field →
      (∀ text other, collation.equal (.text text) (.text other) = true ↔ text = other) →
      row field.name = left.compared (some field) →
        (Filter.Finds model collation row [(field.name, .eq right)] ↔
          left.isNull = right.isNull ∧ left.toJson = right.toJson) :=
  ⟨fun _ given => field.bindsText_of_document serialized given,
    field.outcome_eq_iff serialized equal,
    fun declared exact held => field.finds_document_iff declared serialized exact equal held⟩

def parcel : Model where
  name := "Parcel"
  fields := [{ name := "meta", type := .json }]

def parcelMeta : Field := { name := "meta", type := .json }

/-- A row of `parcel` that holds a text. -/
def labelled (text : String) : String → Value
  | "meta" => .text text
  | _ => .null

/-- A list and the document of a list are the same document. -/
theorem equal_documents_alike_list :
    let stored : Value := .list [.int 1, .json (.object [("color", .text "red")])]
    let sought : Value := .json (.array [.ofNat 1, .object [("color", .text "red")]])
    parcelMeta.BindsText stored "[1,\x7b\"color\":\"red\"\x7d]" ∧
      parcelMeta.BindsText sought "[1,\x7b\"color\":\"red\"\x7d]" ∧
      Filter.Finds parcel plainly (labelled "[1,\x7b\"color\":\"red\"\x7d]")
        [("meta", .eq sought)] := by
  intro stored sought
  have same : stored.toJson = sought.toJson := rfl
  have text : stored.toJson.compact = "[1,\x7b\"color\":\"red\"\x7d]" := by decide +kernel
  have equal : stored.toJson.same sought.toJson = true := same ▸ Json.same_self _
  have serialized : parcelMeta.type.isSerialized = true := rfl
  obtain ⟨bound, alike, finds⟩ := equal_documents_alike_iff serialized equal
  refine ⟨text ▸ bound stored rfl, text ▸ same ▸ bound sought rfl, ?_⟩
  refine (finds rfl (by simp [plainly]) ?_).mpr ⟨rfl, same⟩
  rw [parcelMeta.compared_document rfl rfl, text]
  rfl

/-- The order of members, the sign of a zero and what null is given as are seen in what is
bound. -/
theorem equal_documents_may_be_lost :
    let ordered : Value := .json (.object [("a", .ofNat 1), ("b", .ofNat 2)])
    let turned : Value := .json (.object [("b", .ofNat 2), ("a", .ofNat 1)])
    let zero : Value := .list [.float 0.0]
    let negative : Value := .list [.float (-0.0)]
    (ordered.toJson.same turned.toJson = true ∧
      parcelMeta.BindsText ordered "\x7b\"a\":1,\"b\":2\x7d" ∧
      parcelMeta.BindsText turned "\x7b\"b\":2,\"a\":1\x7d" ∧
      ¬ Filter.Finds parcel plainly (labelled "\x7b\"a\":1,\"b\":2\x7d")
        [("meta", .eq turned)]) ∧
    (zero.toJson.same negative.toJson = true ∧ parcelMeta.BindsText zero "[0.0]" ∧
      parcelMeta.BindsText negative "[-0.0]") ∧
    (Value.null.toJson.same (Value.json .null).toJson = true ∧
      outcome (Operand.compile (some parcelMeta) .null) .empty = (.ok .null, .empty) ∧
      parcelMeta.BindsText (.json .null) "null") := by
  intro ordered turned zero negative
  have bound (value : Value) (given : value.isNull = false) :
      parcelMeta.BindsText value value.toJson.compact :=
    parcelMeta.bindsText_of_document rfl given
  have first : ordered.toJson.compact = "\x7b\"a\":1,\"b\":2\x7d" := by decide +kernel
  have second : turned.toJson.compact = "\x7b\"b\":2,\"a\":1\x7d" := by decide +kernel
  have equal : ordered.toJson.same turned.toJson = true := by decide +kernel
  have apart : ordered.toJson ≠ turned.toJson := by
    intro same
    rw [← Json.compact_eq_iff equal, first, second] at same
    exact absurd same (by decide)
  have plus : zero.toJson.compact = "[0.0]" := by decide +kernel
  have minus : negative.toJson.compact = "[-0.0]" := by decide +kernel
  refine ⟨⟨equal, first ▸ bound ordered rfl, second ▸ bound turned rfl, fun found => ?_⟩,
    ⟨by decide +kernel, plus ▸ bound zero rfl, minus ▸ bound negative rfl⟩,
    rfl, rfl, bound (.json .null) rfl⟩
  refine apart ((parcelMeta.finds_document_iff rfl rfl (by simp [plainly]) equal ?_).mp found).2
  rw [parcelMeta.compared_document rfl rfl, first]
  rfl

end SqlMapper
