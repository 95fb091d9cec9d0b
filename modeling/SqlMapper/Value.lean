import SqlMapper.Calendar.Instant
import SqlMapper.Decimal.Binary
import SqlMapper.Json.Printer
import SqlMapper.Text.Blank

/-!
Values of columns and parameters.

A `Value` is what a record holds and what a statement binds. Every JSON document is a value: lists
stay lists, and an object is kept whole as a document.
-/

namespace SqlMapper

open Calendar (Instant)

inductive Value where
  | null
  | bool (value : Bool)
  | int (value : Int64)
  | float (value : Float)
  | text (value : String)
  | timestamp (value : Instant)
  | list (items : List Value)
  | json (document : Json)

namespace Value

instance : Inhabited Value := ⟨.null⟩

def isNull : Value → Bool
  | .null => true
  | _ => false

/-- The value as a whole number: a floating-point number counts if it has no fractional part, and
a text if it writes a whole number once blanks around it are dropped. -/
def asInt? : Value → Option Int64
  | .int value => some value
  | .float value => Decimal.whole? value
  | .text value => Decimal.readInt64? (Text.trimmed value.toList)
  | _ => none

def asText? : Value → Option String
  | .text value => some value
  | _ => none

/-- Whether the value counts as true in a Boolean column: null, zero and the empty text do not. -/
def truthy : Value → Bool
  | .null => false
  | .bool value => value
  | .int value => value != 0
  | .float value => value != 0.0
  | .text value => !value.isEmpty
  | .timestamp _ | .list _ | .json _ => true

mutual

/-- The value as a JSON document, with timestamps written by `stamp`. A floating-point number that
is not finite becomes null. -/
def toJsonWith (stamp : Instant → String) : Value → Json
  | .null => .null
  | .bool value => .bool value
  | .int value => .number (.ofInt64 value)
  | .float value => ((Json.Number.ofFloat? value).map Json.number).getD .null
  | .text value => .text value
  | .timestamp value => .text (stamp value)
  | .list items => .array (itemsToJsonWith stamp items)
  | .json document => document

def itemsToJsonWith (stamp : Instant → String) : List Value → List Json
  | [] => []
  | item :: rest => item.toJsonWith stamp :: itemsToJsonWith stamp rest

end

/-- The value as a JSON document. Timestamps show the zone as `+00:00`. -/
def toJson (value : Value) : Json :=
  value.toJsonWith fun instant => instant.render .exact "+00:00"

/-- The value as it is stored on its own. Timestamps show the zone as `Z`. -/
def serialized (value : Value) : Json :=
  value.toJsonWith fun instant => instant.render .exact "Z"

/-- A JSON number as a value: a whole number if it fits 64 bits with a sign, else the nearest
floating-point number. -/
def ofNumber : Json.Number → Value
  | .whole value _ _ =>
    if value < 0x8000000000000000 then .int (Int64.ofInt value) else .float (Float.ofInt value)
  | .real value _ => .float value

mutual

def ofJson : Json → Value
  | .null => .null
  | .bool value => .bool value
  | .number value => ofNumber value
  | .text value => .text value
  | .array items => .list (ofItems items)
  | .object members => .json (.object members)

def ofItems : List Json → List Value
  | [] => []
  | item :: rest => ofJson item :: ofItems rest

end

theorem isNull_iff {value : Value} : value.isNull = true ↔ value = .null := by
  cases value <;> simp [isNull]

end Value

end SqlMapper
