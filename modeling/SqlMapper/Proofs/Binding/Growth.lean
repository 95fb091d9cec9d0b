import SqlMapper.Parameters

namespace SqlMapper.Parameters

/-! Parameters only grow.

A name keeps its value when more is bound, and as long as no made-up name that
is still to come is taken, a value bound under a made-up name is found there.
-/

variable {parameters earlier later latest : Parameters} {name : String} {value : Value}

def Extends (later earlier : Parameters) : Prop :=
  earlier.bound <+: later.bound

/-- No name that is still to be made up is taken. -/
def Fresh (parameters : Parameters) : Prop :=
  ∀ number, parameters.next ≤ number → nameAt number ∉ parameters.names

theorem Extends.refl (parameters : Parameters) : parameters.Extends parameters :=
  List.prefix_refl parameters.bound

theorem Extends.trans (second : latest.Extends later) (first : later.Extends earlier) :
    latest.Extends earlier :=
  List.IsPrefix.trans first second

theorem extends_addNamed (parameters : Parameters) (name : String) (value : Value) :
    (parameters.addNamed name value).Extends parameters :=
  List.prefix_append _ _

theorem get?_of_extends (extended : later.Extends earlier)
    (found : earlier.get? name = some value) : later.get? name = some value := by
  obtain ⟨more, appended⟩ := extended
  rw [get?, Option.map_eq_some_iff] at found
  obtain ⟨parameter, found, same⟩ := found
  rw [get?, ← appended, List.find?_append, found]
  simp [same]

theorem get?_addNamed_of_absent (absent : name ∉ parameters.names) :
    (parameters.addNamed name value).get? name = some value := by
  have missing : parameters.bound.find? (fun parameter => parameter.name == name) = none := by
    rw [List.find?_eq_none]
    intro parameter member same
    exact absent (List.mem_map.mpr ⟨parameter, member, by simpa using same⟩)
  simp [get?, addNamed, List.find?_append, missing]

theorem nameAt_injective {left right : Nat} (same : nameAt left = nameAt right) : left = right := by
  have digits : Nat.toDigits 10 left = Nat.toDigits 10 right := by
    have spelled := congrArg String.toList same
    simpa [nameAt, Nat.toString_eq_ofList_toDigits] using spelled
  calc
    left = Nat.ofDigitChars 10 (Nat.toDigits 10 left) 0 := Nat.ofDigitChars_ten_toDigits.symm
    _ = Nat.ofDigitChars 10 (Nat.toDigits 10 right) 0 := by rw [digits]
    _ = right := Nat.ofDigitChars_ten_toDigits

theorem fresh_empty : empty.Fresh := by
  intro number _
  simp [names, empty]

theorem Fresh.add (fresh : parameters.Fresh) (value : Value) :
    (parameters.addNamed (nameAt parameters.next) value).Fresh := by
  intro number later member
  rw [next_addNamed] at later
  rw [names_addNamed, List.mem_append, List.mem_singleton] at member
  rcases member with old | new
  · exact fresh number (by omega) old
  · have same := nameAt_injective new
    omega

theorem Fresh.get?_add (fresh : parameters.Fresh) (value : Value) :
    (parameters.addNamed (nameAt parameters.next) value).get? (nameAt parameters.next) =
      some value :=
  get?_addNamed_of_absent (fresh parameters.next (Nat.le_refl _))

end SqlMapper.Parameters
