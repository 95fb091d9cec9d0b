import SqlMapper.Condition
import SqlMapper.Filter.Document
import SqlMapper.Proofs.Binding.Outcome
import SqlMapper.Proofs.Statement.Parts

namespace SqlMapper

/-! Filters within filters.

The filter of a subquery is read without a look at the fields of the model, however deep it
stands.  It means what it would mean on its own unless it compares a field for
documents with an object whose only key is no operator: then it is refused.
-/

/-- A condition that asks for the greatest value of a column in a source. -/
structure Subquery where
  field : String
  aggregated : String
  source : String

namespace Subquery

variable (subquery : Subquery)

/-- The condition as a filter document, with the document of the inner filter. -/
def document (inner : Json) : Json :=
  .object [(subquery.field, .object [("max", .object [
    ("field", .text subquery.aggregated), ("from", .text subquery.source), ("where", inner)])])]

def filter (inner : Option Filter) : Filter :=
  [(subquery.field, .greatest subquery.aggregated subquery.source inner)]

end Subquery

/-- A document within subqueries, of which the first is the outermost. -/
def Json.within (document : Json) : List Subquery → Json
  | [] => document
  | subquery :: rest => subquery.document (document.within rest)

/-- The filter that subqueries leave of the innermost one. -/
def Filter.within (innermost : Option Filter) : List Subquery → Option Filter
  | [] => innermost
  | subquery :: rest => some (subquery.filter (within innermost rest))

/-- The filter of a subquery.  A document that is null gives none. -/
def Filter.ofInner : Json → Except CompileError (Option Filter)
  | .null => .ok none
  | document => (Filter.ofJson document).map some

/-- The only key of an object that is no operator, where a field for documents is compared
with the object. -/
def Model.wholeKey? (model : Model) : String × Json → Option String
  | (field, .object [(key, _)]) =>
    if (model.field? field).any (·.type.isSerialized) && (Operator.ofName? key).isNone then some key
    else none
  | _ => none

def Json.members : Json → List (String × Json)
  | .object members => members
  | _ => []

variable {model : Model} {document : Json} {filter : Filter}

namespace Expr

theorem ofDocument_eq_ofJson {field : String} {content : Json}
    (serialized : (model.field? field).any (·.type.isSerialized) = true)
    (plain : model.wholeKey? (field, content) = none) : ofDocument content = ofJson content := by
  unfold ofDocument
  split
  · next key operand =>
    simp only [Model.wholeKey?, serialized, Bool.true_and] at plain
    rw [ofJson]
    split
    · rfl
    · next missing => simp [missing] at plain
  · next single =>
    rw [ofJson]
    exact single

theorem ofJson_of_wholeKey {member : String × Json} {key : String}
    (whole : model.wholeKey? member = some key) :
    ofJson member.2 = .error (.unsupportedOperator key) := by
  unfold Model.wholeKey? at whole
  split at whole
  · split at whole
    · next condition =>
      cases whole
      simp only [Bool.and_eq_true, Option.isNone_iff_eq_none] at condition
      rw [ofJson, condition.2]
    · cases whole
  · cases whole

end Expr

namespace Filter

variable {members : List (String × Json)}

/-- Read for a model, the first member gives the first condition. -/
theorem steps_of_ofJsonFor_cons {member : String × Json}
    (accepted : ofJsonFor model (.object (member :: members)) = .ok filter) :
    ∃ expr rest, (if (model.field? member.1).any (·.type.isSerialized) then
        Expr.ofDocument member.2 else Expr.ofJson member.2) = .ok expr ∧
      ofJsonFor model (.object members) = .ok rest ∧ filter = (member.1, expr) :: rest := by
  rw [ofJsonFor, List.mapM_cons] at accepted
  obtain ⟨entry, read, accepted⟩ := exists_of_bind_eq_ok accepted
  obtain ⟨rest, others, same⟩ := exists_of_bind_eq_ok accepted
  cases same
  obtain ⟨field, content⟩ := member
  dsimp only at read
  split at read
  · next serialized =>
    obtain ⟨expr, done, same⟩ := exists_of_bind_eq_ok read
    cases same
    exact ⟨expr, rest, (if_pos serialized).trans done, others, rfl⟩
  · next plain =>
    obtain ⟨expr, done, same⟩ := exists_of_bind_eq_ok read
    cases same
    exact ⟨expr, rest, (if_neg plain).trans done, others, rfl⟩

/-- A filter that a model accepts is read alike without it up to the first member that
compares with a whole object. -/
theorem ofMembers_of_accepted (accepted : ofJsonFor model (.object members) = .ok filter) :
    ofMembers members =
      match members.findSome? model.wholeKey? with
      | none => .ok filter
      | some key => .error (.unsupportedOperator key) := by
  induction members generalizing filter with
  | nil =>
      cases accepted
      rfl
  | cons member members ih =>
      obtain ⟨expr, rest, first, others, rfl⟩ := steps_of_ofJsonFor_cons accepted
      rw [ofMembers, List.findSome?_cons, ih others]
      cases whole : model.wholeKey? member with
      | some key =>
          rw [Expr.ofJson_of_wholeKey whole]
          rfl
      | none =>
          have alike : Expr.ofJson member.2 = .ok expr := by
            split at first
            · next serialized => rwa [Expr.ofDocument_eq_ofJson serialized whole] at first
            · exact first
          rw [alike]
          cases members.findSome? model.wholeKey? <;> rfl

theorem ofJson_of_accepted (accepted : ofJsonFor model document = .ok filter) :
    ofJson document =
      match document.members.findSome? model.wholeKey? with
      | none => .ok filter
      | some key => .error (.unsupportedOperator key) := by
  cases document with
  | null =>
      cases accepted
      rfl
  | object members =>
      rw [ofJson]
      exact ofMembers_of_accepted accepted
  | bool _ | number _ | text _ | array _ => cases accepted

end Filter

namespace Subquery

variable (subquery : Subquery)

theorem ofOperand_greatest (inner : Json) :
    Expr.ofOperand .greatest (.object [
        ("field", .text subquery.aggregated), ("from", .text subquery.source), ("where", inner)]) =
      (Filter.ofInner inner).map fun inner =>
        .greatest subquery.aggregated subquery.source inner := by
  have nested : Filter.nested [("field", .text subquery.aggregated),
      ("from", .text subquery.source), ("where", inner)] = Filter.ofInner inner := by
    cases inner <;> simp [Filter.nested, Filter.ofInner]
  have field : Filter.describedField [("field", .text subquery.aggregated),
      ("from", .text subquery.source), ("where", inner)] = .ok subquery.aggregated := rfl
  have source : Filter.describedSource [("field", .text subquery.aggregated),
      ("from", .text subquery.source), ("where", inner)] = .ok subquery.source := rfl
  rw [Expr.ofOperand, field, source, nested]
  cases Filter.ofInner inner <;> rfl

theorem ofJson_document (inner : Json) :
    Filter.ofJson (subquery.document inner) = (Filter.ofInner inner).map subquery.filter := by
  have operator : Operator.ofName? "max" = some .greatest := rfl
  simp only [document, Filter.ofJson, Filter.ofMembers, Expr.ofJson, operator,
    subquery.ofOperand_greatest]
  cases Filter.ofInner inner <;> rfl

/-- Whatever the type of the field, the object is the operator. -/
theorem ofJsonFor_document (model : Model) (inner : Json) :
    Filter.ofJsonFor model (subquery.document inner) =
      (Filter.ofInner inner).map subquery.filter := by
  have operator : Operator.ofName? "max" = some .greatest := rfl
  simp only [document, Filter.ofJsonFor, List.mapM_cons, List.mapM_nil, Expr.ofJson,
    Expr.ofDocument, operator, subquery.ofOperand_greatest]
  cases Filter.ofInner inner <;> cases (model.field? subquery.field).any _ <;> rfl

end Subquery

namespace Filter

/-- The innermost filter is read first, and what it comes to is passed outwards. -/
theorem ofInner_within (document : Json) (path : List Subquery) :
    ofInner (document.within path) =
      (ofInner document).map fun innermost => within innermost path := by
  induction path with
  | nil =>
      change ofInner document = _
      cases ofInner document <;> rfl
  | cons subquery rest ih =>
      change (ofJson (subquery.document (document.within rest))).map some = _
      rw [subquery.ofJson_document, ih]
      cases ofInner document <;> rfl

theorem ofInner_of_accepted (accepted : ofJsonFor model document = .ok filter) :
    (document.members.findSome? model.wholeKey? = none →
        ∃ innermost, innermost.getD [] = filter ∧ ofInner document = .ok innermost) ∧
      ∀ key, document.members.findSome? model.wholeKey? = some key →
        ofInner document = .error (.unsupportedOperator key) := by
  have read := ofJson_of_accepted accepted
  cases document with
  | null =>
      cases accepted
      exact ⟨fun _ => ⟨none, rfl, rfl⟩, nofun⟩
  | object members =>
      have inner : ofInner (.object members) = (ofJson (.object members)).map some := rfl
      rw [inner, read]
      constructor
      · intro plain
        rw [plain]
        exact ⟨some filter, rfl, rfl⟩
      · intro key whole
        rw [whole]
        rfl
  | bool _ | number _ | text _ | array _ => cases accepted

end Filter

/-- A filter that a model accepts is read alike within subqueries, however deep, exactly if it
compares no field for documents with an object whose only key is no operator.  Otherwise the
first such key is refused. -/
theorem nested_read_alike_iff (accepted : Filter.ofJsonFor model document = .ok filter)
    (outermost : Subquery) (deeper : List Subquery) :
    let read := Filter.ofJsonFor model (document.within (outermost :: deeper))
    ((∃ innermost : Option Filter, innermost.getD [] = filter ∧
        read = .ok (outermost.filter (Filter.within innermost deeper))) ↔
      ∀ member ∈ document.members, model.wholeKey? member = none) ∧
    ∀ key, document.members.findSome? model.wholeKey? = some key →
      read = .error (.unsupportedOperator key) := by
  intro read
  have outward : read = (Filter.ofInner document).map fun innermost =>
      outermost.filter (Filter.within innermost deeper) := by
    change Filter.ofJsonFor model (outermost.document (document.within deeper)) = _
    rw [outermost.ofJsonFor_document, Filter.ofInner_within]
    cases Filter.ofInner document <;> rfl
  obtain ⟨plainly, refused⟩ := Filter.ofInner_of_accepted accepted
  refine ⟨?_, fun key whole => by rw [outward, refused key whole]; rfl⟩
  rw [← List.findSome?_eq_none_iff]
  constructor
  · rintro ⟨innermost, _, alike⟩
    cases whole : document.members.findSome? model.wholeKey? with
    | none => rfl
    | some key =>
        rw [outward, refused key whole] at alike
        cases alike
  · intro plain
    obtain ⟨innermost, same, found⟩ := plainly plain
    exact ⟨innermost, same, by rw [outward, found]; rfl⟩

def article : Model where
  name := "Article"
  fields := [
    { name := "meta", type := .json }, { name := "notes", type := .array .json },
    { name := "version", type := .number }]

def newest : Subquery where
  field := "version"
  aggregated := "version"
  source := "[dbo].[Article]"

/-- Operators on a field for documents, and objects with several keys, stay what they are. -/
theorem nested_read_alike_article :
    let document := Json.object [
      ("meta", .object [("neq", .object [("color", .text "red")])]),
      ("notes", .object [("by", .text "Ada"), ("on", .text "page 3")]), ("version", .null)]
    let filter : Filter := [
      ("meta", .compare .different (.json (.object [("color", .text "red")]))),
      ("notes", .eq (.json (.object [("by", .text "Ada"), ("on", .text "page 3")]))),
      ("version", .eq .null)]
    Filter.ofJsonFor article document = .ok filter ∧
      ∃ innermost : Option Filter, innermost.getD [] = filter ∧
        Filter.ofJsonFor article (document.within [newest, newest]) =
          .ok (newest.filter (some (newest.filter innermost))) := by
  intro document filter
  have accepted : Filter.ofJsonFor article document = .ok filter := rfl
  have plain : ∀ member ∈ document.members, article.wholeKey? member = none := by decide
  exact ⟨accepted, (nested_read_alike_iff accepted newest [newest]).1.mpr plain⟩

/-- A whole object is compared at the top and refused within a subquery, where the compiler
would take it. -/
theorem nested_may_be_refused :
    let document := Json.object [("meta", .object [("color", .text "red")])]
    let filter : Filter := [("meta", .eq (.json (.object [("color", .text "red")])))]
    Filter.ofJsonFor article document = .ok filter ∧
      Filter.ofJsonFor article (newest.document document) =
        .error (.unsupportedOperator "color") ∧
      Binding.outcome (Condition.compileAll article (newest.filter (some filter))) .empty =
        (.ok [.greatest "version" "version" "[dbo].[Article]"
            [.equals "meta" (.parameter "param1")]],
          Parameters.empty.addNamed "param1" (.text "\x7b\"color\":\"red\"\x7d")) :=
  ⟨rfl, rfl, rfl⟩

end SqlMapper
