import SqlMapper.Json.Written

/-!
Reading structures from JSON.

A structure is written as an object, in which unknown members are skipped, or as an array of its
fields in order, in which fields at the end may be left out. A field may have several spellings,
but only one of them may be given, and only once.
-/

namespace SqlMapper.Json.Written

def fields? (spellings : List (List String)) : Written → Option (List (Option Written))
  | .object members => spellings.mapM fun names =>
    match members.filter fun member => names.contains member.1 with
    | [] => some none
    | [member] => some (some member.2)
    | _ => none
  | .array items =>
    if items.length ≤ spellings.length then
      some (items.map some ++ List.replicate (spellings.length - items.length) none)
    else none
  | _ => none

def required {α : Type} (read : Written → Option α) (given : Option Written) : Option α :=
  given.bind read

def withDefault {α : Type} (default : α) (read : Written → Option α) (given : Option Written) :
    Option α :=
  given.elim (some default) read

def readText : Written → Option String
  | .text value => some value
  | _ => none

def readBool : Written → Option Bool
  | .bool value => some value
  | _ => none

def readUInt32 : Written → Option UInt32
  | .number (.whole value _ _) =>
    if 0 ≤ value ∧ value < 0x100000000 then some (UInt32.ofNat value.toNat) else none
  | _ => none

def readOptional {α : Type} (read : Written → Option α) : Written → Option (Option α)
  | .null => some none
  | document => (read document).map some

def readList {α : Type} (read : Written → Option α) : Written → Option (List α)
  | .array items => items.mapM read
  | _ => none

/-- A word of a fixed set, written as a text or as an object whose only member has it as key and
null as value. -/
def readWord {α : Type} (words : List (String × α)) : Written → Option α
  | .text word => words.lookup word
  | .object [(word, .null)] => words.lookup word
  | _ => none

end SqlMapper.Json.Written
