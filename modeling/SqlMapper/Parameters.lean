import SqlMapper.Value

/-!
The named parameters of a statement.

Parameters are only ever appended, and keep the order in which they were bound. Names that the
program makes up are `param1`, `param2` and so on; the number advances with every parameter, named
or not.
-/

namespace SqlMapper

structure Parameter where
  name : String
  value : Value

structure Parameters where
  bound : List Parameter
  next : Nat

namespace Parameters

def empty : Parameters := { bound := [], next := 1 }

/-- Parameters given in advance. Made-up names continue after them. -/
def seeded (given : List Parameter) : Parameters :=
  { bound := given, next := given.length + 1 }

def nameAt (number : Nat) : String :=
  "param" ++ toString number

def addNamed (parameters : Parameters) (name : String) (value : Value) : Parameters :=
  { bound := parameters.bound ++ [{ name, value }], next := parameters.next + 1 }

/-- Binds a value under a made-up name, which comes first in the result. -/
def add (parameters : Parameters) (value : Value) : String × Parameters :=
  let name := nameAt parameters.next
  (name, parameters.addNamed name value)

/-- The value bound under a name, the earliest if there are several. -/
def get? (parameters : Parameters) (name : String) : Option Value :=
  (parameters.bound.find? (·.name == name)).map (·.value)

def size (parameters : Parameters) : Nat := parameters.bound.length

def isEmpty (parameters : Parameters) : Bool := parameters.bound.isEmpty

def names (parameters : Parameters) : List String := parameters.bound.map (·.name)

@[simp]
theorem names_addNamed (parameters : Parameters) (name : String) (value : Value) :
    (parameters.addNamed name value).names = parameters.names ++ [name] := by
  simp [names, addNamed]

@[simp]
theorem names_add (parameters : Parameters) (value : Value) :
    (parameters.add value).2.names = parameters.names ++ [nameAt parameters.next] := by
  simp [add]

@[simp]
theorem next_addNamed (parameters : Parameters) (name : String) (value : Value) :
    (parameters.addNamed name value).next = parameters.next + 1 := rfl

end Parameters

end SqlMapper
