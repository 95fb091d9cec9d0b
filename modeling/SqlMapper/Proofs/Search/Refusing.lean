import SqlMapper.Proofs.Entries
import SqlMapper.Proofs.Search.Nested

namespace SqlMapper

/-! What filter documents are refused for.

A document is refused if a condition in it cannot be read, however deep it stands
within the filters of greatest values.  Every other document is read.
-/

/-- The keys under which a document names the source of a greatest value. -/
inductive SourceKey where
  | short
  | long
deriving DecidableEq, Repr

def SourceKey.name : SourceKey → String
  | .short => "from"
  | .long => "fromTable"

/-- The names that an object with a single key has to use. -/
def operatorNames : List String :=
  ["gt", "gte", "lt", "lte", "between", "inq", "nin", "neq", "max"]

namespace Json

/-- What cannot be read as the condition on a field. -/
inductive Faulty : Json → Prop where
  | operator {name : String} {operand : Json} (unknown : name ∉ operatorNames) :
    Faulty (.object [(name, operand)])
  | bounds {operand : Json} (unpaired : ∀ low high, operand ≠ .array [low, high]) :
    Faulty (.object [("between", operand)])
  | description {operand : Json} (other : ∀ members, operand ≠ .object members) :
    Faulty (.object [("max", operand)])
  | field {members : List (String × Json)}
    (missing : ∀ field, entry? "field" members ≠ some (.text field)) :
    Faulty (.object [("max", .object members)])
  | source {members : List (String × Json)}
    (missing : ∀ (key : SourceKey) (source : String),
      entry? key.name members ≠ some (.text source)) :
    Faulty (.object [("max", .object members)])

/-- What is no filter: a condition cannot be read, here or in the filter of a greatest value. -/
inductive Refused : Json → Prop where
  | shape {document : Json} (value : document ≠ .null)
    (plain : ∀ members, document ≠ .object members) : Refused document
  | condition {members : List (String × Json)} {field : String} {content : Json}
    (member : (field, content) ∈ members) (faulty : content.Faulty) : Refused (.object members)
  | nested {members description : List (String × Json)} {field : String} {filter : Json}
    (member : (field, .object [("max", .object description)]) ∈ members)
    (described : entry? "where" description = some filter) (deeper : filter.Refused) :
    Refused (.object members)

theorem Refused.of_subset {fewer members : List (String × Json)}
    (refused : Refused (.object fewer)) (subset : fewer ⊆ members) :
    Refused (.object members) := by
  cases refused with
  | shape _ plain => exact absurd rfl (plain fewer)
  | condition member faulty => exact .condition (subset member) faulty
  | nested member described deeper => exact .nested (subset member) described deeper

end Json

/-! Reading a condition, operator by operator. -/

namespace Operator

variable {name : String}

theorem ofName?_eq_none_iff : ofName? name = none ↔ name ∉ operatorNames := by
  have names : operatorNames = all.map Operator.name := rfl
  simp only [ofName?, names, List.find?_eq_none, List.mem_map, beq_iff_eq, not_exists, not_and]

theorem name_of_ofName? {operator : Operator} (known : ofName? name = some operator) :
    operator.name = name := by
  simpa using List.find?_some known

theorem ofName?_max : ofName? "max" = some .greatest :=
  rfl

end Operator

variable {members : List (String × Json)}

theorem Expr.ofJson_known {name : String} {operator : Operator}
    (known : Operator.ofName? name = some operator) (operand : Json) :
    Expr.ofJson (.object [(name, operand)]) = Expr.ofOperand operator operand := by
  rw [Expr.ofJson, known]

theorem Expr.ofOperand_greatest {field source : String} {filter : Option Filter}
    (named : Filter.describedField members = .ok field)
    (found : Filter.describedSource members = .ok source)
    (nested : Filter.nested members = .ok filter) :
    Expr.ofOperand .greatest (.object members) = .ok (.greatest field source filter) := by
  rw [Expr.ofOperand, named, found, nested]
  rfl

theorem Json.textUnder?_eq_some_iff {key text : String} :
    Json.textUnder? key members = some text ↔ entry? key members = some (.text text) := by
  unfold Json.textUnder?
  split <;> simp_all

namespace Filter

theorem describedField_eq_ok_iff {field : String} :
    describedField members = .ok field ↔ entry? "field" members = some (.text field) := by
  rw [describedField, ← Json.textUnder?_eq_some_iff]
  cases Json.textUnder? "field" members <;> simp

theorem exists_describedSource_iff :
    (∃ source, describedSource members = .ok source) ↔
      ∃ (key : SourceKey) (source : String), entry? key.name members = some (.text source) := by
  simp only [← Json.textUnder?_eq_some_iff]
  rw [describedSource]
  constructor
  · intro ⟨source, described⟩
    cases short : Json.textUnder? "from" members with
    | some source => exact ⟨.short, source, short⟩
    | none =>
        cases long : Json.textUnder? "fromTable" members with
        | some source => exact ⟨.long, source, long⟩
        | none => simp [short, long] at described
  · intro ⟨key, source, found⟩
    cases key with
    | short =>
        have short : Json.textUnder? "from" members = some source := found
        rw [short]
        exact ⟨source, rfl⟩
    | long =>
        have long : Json.textUnder? "fromTable" members = some source := found
        rw [long]
        cases Json.textUnder? "from" members <;> exact ⟨_, rfl⟩

/-- The inner filter stands under its first key. -/
theorem nested_eq (members : List (String × Json)) :
    nested members =
      match entry? "where" members with
      | some document => ofInner document
      | none => .ok none := by
  induction members with
  | nil => rfl
  | cons entry rest ih =>
      obtain ⟨key, document⟩ := entry
      by_cases same : key = "where"
      · subst same
        rw [entry?_cons_self]
        cases document <;> simp [nested, ofInner]
      · rw [entry?_cons_of_ne same, ← ih]
        cases document <;> simp [nested, same]

theorem exists_ofInner_iff (document : Json) :
    (∃ inner, ofInner document = .ok inner) ↔ ∃ filter, ofJson document = .ok filter := by
  by_cases null : document = .null
  · subst null
    exact ⟨fun _ => ⟨[], rfl⟩, fun _ => ⟨none, rfl⟩⟩
  · rw [ofInner]
    · cases ofJson document <;> simp [Except.map]
    · exact null

theorem exists_nested_iff :
    (∃ inner, nested members = .ok inner) ↔
      ∀ document, entry? "where" members = some document →
        ∃ filter, ofJson document = .ok filter := by
  rw [nested_eq]
  cases entry? "where" members with
  | none => simp
  | some document => simpa using exists_ofInner_iff document

end Filter

theorem Expr.exists_greatest_iff :
    (∃ expr, Expr.ofOperand .greatest (.object members) = .ok expr) ↔
      (∃ field, entry? "field" members = some (.text field)) ∧
      (∃ (key : SourceKey) (source : String), entry? key.name members = some (.text source)) ∧
      ∀ document, entry? "where" members = some document →
        ∃ filter, Filter.ofJson document = .ok filter := by
  simp only [← Filter.describedField_eq_ok_iff, ← Filter.exists_describedSource_iff,
    ← Filter.exists_nested_iff]
  constructor
  · rintro ⟨expr, read⟩
    rw [Expr.ofOperand] at read
    obtain ⟨field, named, read⟩ := exists_of_bind_eq_ok read
    obtain ⟨source, found, read⟩ := exists_of_bind_eq_ok read
    obtain ⟨inner, nested, _⟩ := exists_of_bind_eq_ok read
    exact ⟨⟨field, named⟩, ⟨source, found⟩, ⟨inner, nested⟩⟩
  · rintro ⟨⟨field, named⟩, ⟨source, found⟩, ⟨inner, nested⟩⟩
    exact ⟨.greatest field source inner, ofOperand_greatest named found nested⟩

theorem Expr.ofJson_of_faulty {content : Json} {expr : Expr} (faulty : content.Faulty) :
    Expr.ofJson content ≠ .ok expr := by
  intro read
  cases faulty with
  | operator unknown =>
      rw [Expr.ofJson, Operator.ofName?_eq_none_iff.mpr unknown] at read
      cases read
  | bounds unpaired =>
      have known : Operator.ofName? "between" = some .between := rfl
      rw [Expr.ofJson_known known, Expr.ofOperand] at read
      · cases read
      · exact unpaired
  | description other =>
      rw [Expr.ofJson_known Operator.ofName?_max, Expr.ofOperand] at read
      · cases read
      · exact other
  | field missing =>
      rw [Expr.ofJson_known Operator.ofName?_max] at read
      obtain ⟨⟨field, named⟩, _⟩ := Expr.exists_greatest_iff.mp ⟨expr, read⟩
      exact missing field named
  | source missing =>
      rw [Expr.ofJson_known Operator.ofName?_max] at read
      obtain ⟨_, ⟨key, source, found⟩, _⟩ := Expr.exists_greatest_iff.mp ⟨expr, read⟩
      exact missing key source found

namespace Filter

theorem expr_of_ofMembers {filter : Filter} (read : ofMembers members = .ok filter)
    {field : String} {content : Json} (member : (field, content) ∈ members) :
    ∃ expr, Expr.ofJson content = .ok expr := by
  induction members generalizing filter with
  | nil => cases member
  | cons entry rest ih =>
      rw [ofMembers] at read
      obtain ⟨expr, first, read⟩ := exists_of_bind_eq_ok read
      obtain ⟨filter, others, _⟩ := exists_of_bind_eq_ok read
      cases member with
      | head => exact ⟨expr, first⟩
      | tail _ later => exact ih others later

theorem ofJson_of_refused {document : Json} {filter : Filter} (refused : document.Refused) :
    ofJson document ≠ .ok filter := by
  intro read
  induction refused generalizing filter with
  | @shape document value plain =>
      rw [ofJson] at read
      · cases read
      · exact value
      · exact plain
  | condition member faulty =>
      rw [ofJson] at read
      obtain ⟨expr, content⟩ := expr_of_ofMembers read member
      exact Expr.ofJson_of_faulty faulty content
  | nested member described _ ih =>
      rw [ofJson] at read
      obtain ⟨expr, content⟩ := expr_of_ofMembers read member
      rw [Expr.ofJson_known Operator.ofName?_max] at content
      obtain ⟨_, _, inner⟩ := Expr.exists_greatest_iff.mp ⟨expr, content⟩
      obtain ⟨filter, deeper⟩ := inner _ described
      exact ih deeper

/-! Every other document is read. -/

mutual

theorem read_of_sound : ∀ document : Json, ¬ document.Refused →
    ∃ filter, ofJson document = .ok filter
  | .null, _ => ⟨[], rfl⟩
  | .object members, sound => by
      rw [ofJson]
      exact members_of_sound members sound
  | .bool _, sound | .number _, sound | .text _, sound | .array _, sound =>
      absurd (.shape nofun nofun) sound

theorem members_of_sound : ∀ members : List (String × Json), ¬ (Json.object members).Refused →
    ∃ filter, ofMembers members = .ok filter
  | [], _ => ⟨[], rfl⟩
  | (field, content) :: rest, sound => by
      obtain ⟨expr, first⟩ := expr_of_sound field content fun refused =>
        sound (refused.of_subset (List.cons_subset_cons _ (List.nil_subset rest)))
      obtain ⟨filter, others⟩ := members_of_sound rest fun refused =>
        sound (refused.of_subset (List.subset_cons_self _ rest))
      exact ⟨(field, expr) :: filter, by rw [ofMembers, first, others]; rfl⟩

theorem expr_of_sound : ∀ (field : String) (content : Json),
    ¬ (Json.object [(field, content)]).Refused → ∃ expr, Expr.ofJson content = .ok expr
  | field, .object [(name, operand)], sound => by
      cases known : Operator.ofName? name with
      | none =>
          have unknown := Operator.ofName?_eq_none_iff.mp known
          exact absurd (.condition List.mem_cons_self (.operator unknown)) sound
      | some operator =>
          rw [Expr.ofJson_known known]
          cases Operator.name_of_ofName? known
          exact operand_of_sound field operator operand sound
  | _, .object [], _ | _, .object (_ :: _ :: _), _ | _, .null, _ | _, .bool _, _
  | _, .number _, _ | _, .text _, _ | _, .array _, _ => ⟨_, rfl⟩

theorem operand_of_sound : ∀ (field : String) (operator : Operator) (operand : Json),
    ¬ (Json.object [(field, .object [(operator.name, operand)])]).Refused →
      ∃ expr, Expr.ofOperand operator operand = .ok expr
  | _, .compare _, _, _ | _, .oneOf, _, _ | _, .noneOf, _, _ => by
      rw [Expr.ofOperand]
      exact ⟨_, rfl⟩
  | _, .between, operand, sound => by
      by_cases paired : ∃ low high, operand = .array [low, high]
      · obtain ⟨low, high, rfl⟩ := paired
        exact ⟨_, rfl⟩
      · have unpaired : ∀ low high, operand ≠ .array [low, high] := by simpa using paired
        exact absurd (.condition List.mem_cons_self (.bounds unpaired)) sound
  | field, .greatest, .object members, sound => by
      refine Expr.exists_greatest_iff.mpr ⟨?_, ?_, ?_⟩
      · refine Classical.byContradiction fun missing => ?_
        exact sound (.condition List.mem_cons_self (.field (not_exists.mp missing)))
      · refine Classical.byContradiction fun missing => ?_
        exact sound (.condition List.mem_cons_self (.source (by simpa using missing)))
      · exact inner_of_sound members fun document described refused =>
          sound (.nested List.mem_cons_self described refused)
  | _, .greatest, .null, sound | _, .greatest, .bool _, sound | _, .greatest, .number _, sound
  | _, .greatest, .text _, sound | _, .greatest, .array _, sound =>
      absurd (.condition List.mem_cons_self (.description nofun)) sound

theorem inner_of_sound : ∀ members : List (String × Json),
    (∀ document, entry? "where" members = some document → ¬ document.Refused) →
      ∀ document, entry? "where" members = some document → ∃ filter, ofJson document = .ok filter
  | [], _ => fun _ found => by cases found
  | (key, content) :: rest, sound => by
      by_cases same : key = "where"
      · subst same
        rw [entry?_cons_self] at sound ⊢
        intro document found
        cases found
        exact read_of_sound content (sound content rfl)
      · rw [entry?_cons_of_ne same] at sound ⊢
        exact inner_of_sound rest sound

end

theorem failing_iff (document : Json) :
    (∃ error, ofJson document = .error error) ↔ document.Refused := by
  constructor
  · intro ⟨error, failed⟩
    refine Classical.byContradiction fun sound => ?_
    obtain ⟨filter, read⟩ := read_of_sound document sound
    cases failed.symm.trans read
  · intro refused
    cases read : ofJson document with
    | error error => exact ⟨error, rfl⟩
    | ok filter => exact absurd read (ofJson_of_refused refused)

end Filter

end SqlMapper
