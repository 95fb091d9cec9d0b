/-!
JSON documents.

A number keeps the two kinds apart that the text form distinguishes: whole numbers in the range of
64-bit integers, signed or unsigned, and finite floating-point numbers. Members of an object keep
their order.
-/

namespace SqlMapper

namespace Json

/-- A JSON number: a whole number that fits 64 bits with or without a sign, or a finite
floating-point number. -/
inductive Number where
  | whole (value : Int) (lower : -0x8000000000000000 ≤ value)
    (upper : value < 0x10000000000000000)
  | real (value : Float) (finite : value.isFinite = true)
deriving DecidableEq

namespace Number

def ofInt? (value : Int) : Option Number :=
  if bounds : -0x8000000000000000 ≤ value ∧ value < 0x10000000000000000 then
    some (.whole value bounds.1 bounds.2)
  else none

def ofFloat? (value : Float) : Option Number :=
  if finite : value.isFinite = true then some (.real value finite) else none

def ofInt64 (value : Int64) : Number :=
  .whole value.toInt (Int64.le_toInt value) (by
    have below := Int64.toInt_lt value
    omega)

end Number

end Json

inductive Json where
  | null
  | bool (value : Bool)
  | number (value : Json.Number)
  | text (value : String)
  | array (items : List Json)
  | object (members : List (String × Json))

namespace Json

instance : Inhabited Json := ⟨.null⟩

/-- A natural number as a document; one that does not fit 64 bits has none. -/
def ofNat (value : Nat) : Json :=
  ((Number.ofInt? value).map Json.number).getD .null

end Json

end SqlMapper
