import SqlMapper.CompileError
import SqlMapper.Entries
import SqlMapper.Value

/-!
Records: the values of some fields, in the order in which they were set.

No field occurs twice. Setting a field that is present replaces its value and keeps its place, so
column lists and parameter names come out in a predictable order.
-/

namespace SqlMapper

structure Record where
  entries : List (String × Value)
  distinct : (entries.map (·.1)).Nodup

namespace Record

def empty : Record := ⟨[], List.nodup_nil⟩

def set (record : Record) (field : String) (value : Value) : Record :=
  ⟨setEntry field value record.entries, nodup_keys_setEntry field value record.distinct⟩

def get? (record : Record) (field : String) : Option Value :=
  entry? field record.entries

def erase (record : Record) (field : String) : Record :=
  ⟨record.entries.filter (·.1 != field),
    (List.filter_sublist.map Prod.fst).nodup record.distinct⟩

def size (record : Record) : Nat := record.entries.length

def isEmpty (record : Record) : Bool := record.entries.isEmpty

def fields (record : Record) : List String := record.entries.map (·.1)

/-- The record that setting the given fields in order leaves. -/
def ofList (entries : List (String × Value)) : Record :=
  entries.foldl (fun record entry => record.set entry.1 entry.2) empty

def ofJson : Json → Except CompileError Record
  | .object members => .ok (ofList (members.map fun member => (member.1, Value.ofJson member.2)))
  | document => .error (.invalidOperand (.recordExpected document))

@[simp]
theorem get?_set_self (record : Record) (field : String) (value : Value) :
    (record.set field value).get? field = some value := by
  simp [get?, set]

theorem get?_set_of_ne (record : Record) {field other : String} (value : Value)
    (different : other ≠ field) : (record.set field value).get? other = record.get? other := by
  simp [get?, set, entry?_setEntry_of_ne value record.entries different]

theorem fields_set (record : Record) (field : String) (value : Value) :
    (record.set field value).fields =
      if field ∈ record.fields then record.fields else record.fields ++ [field] :=
  keys_setEntry field value record.entries

end Record

end SqlMapper
