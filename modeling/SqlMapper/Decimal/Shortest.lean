import SqlMapper.Decimal.Binary

/-!
The shortest decimal digits that identify a floating-point number.

A number owns the reals that round to it. On the grid of `n` significant digits only the two
neighbours of the number can lie in that interval nearest to it, so the grids are tried from
coarse to fine and the first hit is the answer. Seventeen digits always suffice.
-/

namespace SqlMapper.Decimal

/-- The positive number `digits · 10 ^ (exponent - places)`, where `places + 1` is the number of
digits: `exponent` is the power of ten of the leading digit. -/
structure Scientific where
  digits : List Nat
  exponent : Int
deriving DecidableEq, Repr

namespace Shortest

/-- The reals that round to one number, over a common denominator. The ends belong to the
interval exactly when `closed` holds. -/
structure Interval where
  lower : Nat
  value : Nat
  upper : Nat
  denominator : Nat
  closed : Bool

/-- The interval of a positive number. Below a power of two the neighbour is half as far away. -/
def interval (number : Binary) : Interval :=
  let significand := number.significand
  let below := if significand = 0x10000000000000 ∧ number.exponent > -1074 then 1 else 2
  let scale := match number.exponent with
    | .ofNat power => Nat.pow 2 power
    | .negSucc _ => 1
  let denominator := match number.exponent with
    | .ofNat _ => 4
    | .negSucc power => 4 * Nat.pow 2 (power + 1)
  { lower := (4 * significand - below) * scale
    value := 4 * significand * scale
    upper := (4 * significand + 2) * scale
    denominator := denominator
    closed := significand % 2 == 0 }

def Interval.scaled (range : Interval) : Int → Interval
  | .ofNat power =>
    { range with
      lower := range.lower * Nat.pow 10 power
      value := range.value * Nat.pow 10 power
      upper := range.upper * Nat.pow 10 power }
  | .negSucc power => { range with denominator := range.denominator * Nat.pow 10 (power + 1) }

def Interval.holds (range : Interval) (point : Nat) : Bool :=
  let scaled := point * range.denominator
  if range.closed then range.lower ≤ scaled && scaled ≤ range.upper
  else range.lower < scaled && scaled < range.upper

def width (value : Nat) : Nat :=
  (Nat.toDigits 10 value).length

def leadingExponent (range : Interval) : Int :=
  if range.denominator ≤ range.value then
    (width (range.value / range.denominator) : Int) - 1
  else
    -(width ((range.denominator + range.value - 1) / range.value - 1) : Int)

/-- The neighbour of the value on the whole numbers that lies in the interval: of two the nearer,
and of two equally near the even one. -/
def nearest? (range : Interval) : Option Nat :=
  let floor := range.value / range.denominator
  let above := floor + 1
  match range.holds floor, range.holds above with
  | false, false => none
  | true, false => some floor
  | false, true => some above
  | true, true =>
    let twice := 2 * range.value
    let middle := (floor + above) * range.denominator
    if twice < middle then some floor
    else if middle < twice then some above
    else if floor % 2 = 0 then some floor else some above

/-- The first grid with a hit, from `places` digits behind the leading one on; `fuel` more grids
are tried. -/
def search (range : Interval) (exponent : Int) : (places fuel : Nat) → Nat × Int
  | places, 0 => (range.value / range.denominator, exponent - places)
  | places, fuel + 1 =>
    match nearest? (range.scaled (places - exponent)) with
    | some point => (point, exponent - places)
    | none => search range exponent (places + 1) fuel

def significantDigits (value : Nat) : List Nat :=
  let digits := (Nat.toDigits 10 value).map fun char => char.toNat - '0'.toNat
  (digits.reverse.dropWhile (· == 0)).reverse

end Shortest

open Shortest in
/-- The shortest digits that round back to a positive number, and of those the nearest ones. -/
def shortest (number : Binary) : Scientific :=
  let range := interval number
  let (point, unit) := search range (leadingExponent range) 0 17
  { digits := significantDigits point
    exponent := unit + width point - 1 }

end SqlMapper.Decimal
