import Mathlib.Data.List.Induction
import Mathlib.Data.List.Nodup
import SqlMapper.Proofs.Binding.Growth

namespace SqlMapper.Parameters

/-! Names given and names made up.

The number of a made-up name counts all parameters before it, so made-up names
never meet each other.  They do meet a name that was given earlier and reads like
one of them, and nothing else is ever bound twice.
-/

/-- One more parameter, under a made-up name or under a given one. -/
inductive Addition where
  | madeUp (value : Value)
  | named (name : String) (value : Value)

namespace Addition

def apply (parameters : Parameters) : Addition → Parameters
  | .madeUp value => (parameters.add value).2
  | .named name value => parameters.addNamed name value

def given? : Addition → Option String
  | .madeUp _ => none
  | .named name _ => some name

end Addition

def extended (parameters : Parameters) (additions : List Addition) : Parameters :=
  additions.foldl Addition.apply parameters

/-- What is bound before the addition at a place. -/
def upTo (parameters : Parameters) (additions : List Addition) (place : Nat) : Parameters :=
  parameters.extended (additions.take place)

/-- No name is given that is bound at that point. -/
def Unbound (parameters : Parameters) (additions : List Addition) : Prop :=
  ∀ place name value, additions[place]? = some (.named name value) →
    name ∉ (parameters.upTo additions place).names

/-- After every addition the names are distinct, and a value bound under a made-up
name is found there. -/
structure Separates (parameters : Parameters) (additions : List Addition) : Prop where
  distinct : ∀ place, (parameters.upTo additions place).names.Nodup
  found : ∀ place value, additions[place]? = some (.madeUp value) →
    let (name, after) := (parameters.upTo additions place).add value
    after.get? name = some value

/-- A name that is made up was given before, in advance or on the way. -/
def Anticipates (parameters : Parameters) (additions : List Addition) : Prop :=
  ∃ place value, additions[place]? = some (.madeUp value) ∧
    nameAt (parameters.next + place) ∈
      parameters.names ++ (additions.take place).filterMap Addition.given?

variable {parameters : Parameters} {additions : List Addition} {addition : Addition}
  {name : String}

theorem extended_concat (parameters : Parameters) (additions : List Addition)
    (addition : Addition) :
    parameters.extended (additions ++ [addition]) =
      addition.apply (parameters.extended additions) := by
  simp [extended]

theorem extends_extended (parameters : Parameters) (additions : List Addition) :
    (parameters.extended additions).Extends parameters := by
  induction additions using List.reverseRecOn with
  | nil => exact .refl parameters
  | append_singleton additions addition ih =>
      rw [extended_concat]
      have grown : (addition.apply (parameters.extended additions)).Extends
          (parameters.extended additions) := by
        cases addition <;> exact extends_addNamed _ _ _
      exact grown.trans ih

theorem next_extended (parameters : Parameters) (additions : List Addition) :
    (parameters.extended additions).next = parameters.next + additions.length := by
  induction additions using List.reverseRecOn with
  | nil => rfl
  | append_singleton additions addition ih =>
      have step : (addition.apply (parameters.extended additions)).next =
          (parameters.extended additions).next + 1 := by
        cases addition <;> rfl
      rw [extended_concat, step, ih, List.length_append, List.length_singleton, Nat.add_assoc]

theorem getElem?_concat {place : Nat} {found : Addition} :
    (additions ++ [addition])[place]? = some found ↔
      additions[place]? = some found ∨ place = additions.length ∧ addition = found := by
  rw [List.getElem?_append]
  split
  · next within =>
    simp [Nat.ne_of_lt within]
  · next beyond =>
    have absent : additions[place]? = none := List.getElem?_eq_none (by omega)
    rw [absent, List.getElem?_singleton]
    split <;> simp <;> omega

theorem given_concat_named (value : Value) :
    (additions ++ [Addition.named name value]).filterMap Addition.given? =
      additions.filterMap Addition.given? ++ [name] := by
  simp [Addition.given?]

theorem given_concat_madeUp (value : Value) :
    (additions ++ [Addition.madeUp value]).filterMap Addition.given? =
      additions.filterMap Addition.given? := by
  simp [Addition.given?]

/-- A name is bound if it was given, in advance or on the way, or made up for its
place. -/
theorem mem_names_extended :
    name ∈ (parameters.extended additions).names ↔
      name ∈ parameters.names ++ additions.filterMap Addition.given? ∨
        ∃ place value, additions[place]? = some (.madeUp value) ∧
          name = nameAt (parameters.next + place) := by
  induction additions using List.reverseRecOn with
  | nil => simp [extended]
  | append_singleton additions addition ih =>
      rw [extended_concat]
      cases addition with
      | named given value =>
          rw [Addition.apply, names_addNamed, List.mem_append, ih, given_concat_named,
            ← List.append_assoc, List.mem_append (t := [given]), or_right_comm]
          simp [getElem?_concat]
      | madeUp value =>
          rw [Addition.apply, names_add, List.mem_append, ih, given_concat_madeUp, next_extended,
            or_assoc, List.mem_singleton]
          simp only [getElem?_concat, or_and_right, exists_or]
          simp

/-- The next made-up name is taken only if it was given. -/
theorem nameAt_mem_names_extended :
    nameAt (parameters.extended additions).next ∈ (parameters.extended additions).names ↔
      nameAt (parameters.next + additions.length) ∈
        parameters.names ++ additions.filterMap Addition.given? := by
  rw [mem_names_extended, next_extended]
  refine or_iff_left ?_
  rintro ⟨place, value, present, same⟩
  have within : place < additions.length := (List.getElem?_eq_some_iff.mp present).1
  have equal := nameAt_injective same
  omega

theorem anticipates_concat :
    parameters.Anticipates (additions ++ [addition]) ↔
      parameters.Anticipates additions ∨
        (∃ value, addition = .madeUp value) ∧
          nameAt (parameters.next + additions.length) ∈
            parameters.names ++ additions.filterMap Addition.given? := by
  constructor
  · rintro ⟨place, value, present, given⟩
    rcases getElem?_concat.mp present with earlier | ⟨last, same⟩
    · have within : place < additions.length := (List.getElem?_eq_some_iff.mp earlier).1
      rw [List.take_append_of_le_length (Nat.le_of_lt within)] at given
      exact .inl ⟨place, value, earlier, given⟩
    · subst last
      rw [List.take_left] at given
      exact .inr ⟨⟨value, same⟩, given⟩
  · rintro (⟨place, value, present, given⟩ | ⟨⟨value, same⟩, given⟩)
    · have within : place < additions.length := (List.getElem?_eq_some_iff.mp present).1
      refine ⟨place, value, getElem?_concat.mpr (.inl present), ?_⟩
      rwa [List.take_append_of_le_length (Nat.le_of_lt within)]
    · refine ⟨additions.length, value, getElem?_concat.mpr (.inr ⟨rfl, same⟩), ?_⟩
      rwa [List.take_left]

theorem Unbound.earlier (unbound : parameters.Unbound (additions ++ [addition])) :
    parameters.Unbound additions := by
  intro place name value present
  have within : place < additions.length := (List.getElem?_eq_some_iff.mp present).1
  have free := unbound place name value (getElem?_concat.mpr (.inl present))
  rwa [upTo, List.take_append_of_le_length (Nat.le_of_lt within)] at free

theorem Unbound.last {value : Value} (unbound : parameters.Unbound (additions ++ [.named name value])) :
    name ∉ (parameters.extended additions).names := by
  have free := unbound additions.length name value (getElem?_concat.mpr (.inr ⟨rfl, rfl⟩))
  rwa [upTo, List.take_left] at free

/-- The names are distinct if the last one is new. -/
theorem nodup_names_extended (distinct : parameters.names.Nodup)
    (unbound : parameters.Unbound additions) :
    (parameters.extended additions).names.Nodup ↔ ¬ parameters.Anticipates additions := by
  induction additions using List.reverseRecOn with
  | nil => simp [extended, Anticipates, distinct]
  | append_singleton additions addition ih =>
      have earlier := ih unbound.earlier
      rw [extended_concat, anticipates_concat, not_or, ← earlier]
      cases addition with
      | named given value =>
          have free := unbound.last
          rw [Addition.apply, names_addNamed, ← List.concat_eq_append, List.nodup_concat]
          simp [free]
      | madeUp value =>
          rw [Addition.apply, names_add, ← List.concat_eq_append, List.nodup_concat,
            nameAt_mem_names_extended]
          simp [and_comm]

/-- Parameters to which more are added keep their names distinct, and a value bound
under a made-up name is found there, exactly if no name is given that is made up
later. -/
theorem separates_iff (distinct : parameters.names.Nodup)
    (unbound : parameters.Unbound additions) :
    parameters.Separates additions ↔ ¬ parameters.Anticipates additions := by
  constructor
  · intro separates
    have whole := separates.distinct additions.length
    rw [upTo, List.take_length] at whole
    exact (nodup_names_extended distinct unbound).mp whole
  · intro separate
    have stays (place : Nat) : (parameters.upTo additions place).names.Nodup := by
      have whole := (nodup_names_extended distinct unbound).mpr separate
      rw [← List.take_append_drop place additions, extended, List.foldl_append] at whole
      exact ((extends_extended _ _).map _).sublist.nodup whole
    refine ⟨stays, fun place value present => ?_⟩
    have grown := stays (place + 1)
    rw [upTo, List.take_add_one, present, Option.toList_some, extended_concat, Addition.apply,
      names_add, ← List.concat_eq_append, List.nodup_concat] at grown
    exact get?_addNamed_of_absent grown.1

/-- Here `param1` is given for a place that is counted already. -/
theorem separates_owned :
    let owner : Parameter := { name := "param1", value := .text "Ada" }
    let additions : List Addition := [.madeUp (.int 1), .named "id" (.int 7), .madeUp .null]
    (seeded [owner]).names.Nodup ∧ (seeded [owner]).Unbound additions ∧
      (seeded [owner]).Separates additions ∧
      ((seeded [owner]).extended additions).names = ["param1", "param2", "id", "param4"] := by
  intro owner additions
  have unbound : (seeded [owner]).Unbound additions := by
    rintro (_ | _ | _ | _) name value ⟨⟩
    decide
  refine ⟨by decide, unbound, (separates_iff (by decide) unbound).mpr ?_, by decide⟩
  rintro ⟨_ | _ | _ | _, value, ⟨⟩, given⟩
  · revert given
    decide
  · revert given
    decide

/-- A name that is given, in advance or on the way, is made up again for its
number. -/
theorem given_may_be_madeUp :
    let taken : Parameter := { name := "param2", value := .int 1 }
    ((seeded [taken]).names.Nodup ∧ (seeded [taken]).Unbound [.madeUp (.int 2)] ∧
      ¬ (seeded [taken]).Separates [.madeUp (.int 2)] ∧
      ((seeded [taken]).add (.int 2)).2.get? ((seeded [taken]).add (.int 2)).1 = some (.int 1)) ∧
    empty.Unbound [.named "param2" (.int 1), .madeUp (.int 2)] ∧
      ¬ empty.Separates [.named "param2" (.int 1), .madeUp (.int 2)] := by
  intro taken
  have made : nameAt 2 = "param2" := by decide
  refine ⟨⟨by decide, ?_, fun separates => ?_, ?_⟩, ?_, fun separates => ?_⟩
  · rintro (_ | _) name value ⟨⟩
  · exact absurd (separates.distinct 1) (by decide)
  · simp [taken, seeded, add, addNamed, get?, made]
  · rintro (_ | _ | _) name value ⟨⟩
    decide
  · exact absurd (separates.distinct 2) (by decide)

end SqlMapper.Parameters
