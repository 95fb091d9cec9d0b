/-!
The exact value of a floating-point number.

A finite number of 64 bits is a signed significand times a power of two. `Binary.ofFloat` reads
the three parts off the bits, and whole parts are then taken in exact integer arithmetic.
-/

namespace SqlMapper.Decimal

structure Binary where
  negative : Bool
  significand : Nat
  exponent : Int
deriving DecidableEq, Repr

namespace Binary

/-- The parts of a finite floating-point number. Numbers below the normal range share the lowest
exponent and lack the leading bit. -/
def ofFloat (value : Float) : Binary :=
  let bits := value.toBits.toNat
  let fraction := bits % 0x10000000000000
  let biased := bits / 0x10000000000000 % 0x800
  { negative := bits / 0x8000000000000000 == 1
    significand := if biased = 0 then fraction else 0x10000000000000 + fraction
    exponent := (max biased 1 : Nat) - 1075 }

def wholeMagnitude (number : Binary) : Nat :=
  match number.exponent with
  | .ofNat scale => number.significand * Nat.pow 2 scale
  | .negSucc scale => number.significand / Nat.pow 2 (scale + 1)

def isWhole (number : Binary) : Bool :=
  match number.exponent with
  | .ofNat _ => true
  | .negSucc scale => number.significand % Nat.pow 2 (scale + 1) == 0

def truncate (number : Binary) : Int :=
  if number.negative then -(number.wholeMagnitude : Int) else number.wholeMagnitude

end Binary

/-- The nearest whole number of 64 bits. -/
def saturate (value : Int) : Int64 :=
  if value < -0x8000000000000000 then Int64.minValue
  else if 0x8000000000000000 ≤ value then Int64.maxValue
  else Int64.ofInt value

/-- A finite floating-point number rounded toward zero and kept inside 64 bits. -/
def truncated? (value : Float) : Option Int64 :=
  if value.isFinite then some (saturate (Binary.ofFloat value).truncate) else none

/-- A floating-point number as a whole number, if it is finite and has no fractional part. -/
def whole? (value : Float) : Option Int64 :=
  if value.isFinite && (Binary.ofFloat value).isWhole then
    some (saturate (Binary.ofFloat value).truncate)
  else none

end SqlMapper.Decimal
