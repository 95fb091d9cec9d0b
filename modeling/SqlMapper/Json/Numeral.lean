import SqlMapper.Decimal.Integer
import SqlMapper.Json.Basic

/-!
The numbers that JSON text writes.

A numeral without point and exponent is a whole number if it fits 64 bits. Any other becomes a
floating-point number in two roundings: the digits are gathered into a significand of 64 bits, as
many as fit, and the significand is then scaled by one power of ten. `-0` is the negative zero.
-/

namespace SqlMapper.Json

/-- A numeral taken apart. `exponent` holds the sign and the digits behind the mark. -/
structure Numeral where
  negative : Bool
  whole : List Nat
  fraction : List Nat
  exponent : Option (Bool × List Nat)

namespace Numeral

def takeDigits : List Char → List Nat × List Char
  | [] => ([], [])
  | char :: rest =>
    match Decimal.digit? char with
    | some digit =>
      let (digits, after) := takeDigits rest
      (digit :: digits, after)
    | none => ([], char :: rest)

def exponent? (chars : List Char) : Option (Bool × List Nat) :=
  let (negative, chars) := match chars with
    | '-' :: rest => (true, rest)
    | '+' :: rest => (false, rest)
    | rest => (false, rest)
  match takeDigits chars with
  | (digit :: digits, []) => some (negative, digit :: digits)
  | _ => none

/-- Reads a numeral that fills the text: no zero in front of other digits, and at least one digit
on each side of a point and behind an exponent mark. -/
def ofChars? (chars : List Char) : Option Numeral := do
  let (negative, chars) := match chars with
    | '-' :: rest => (true, rest)
    | rest => (false, rest)
  let (whole, chars) := takeDigits chars
  if whole.isEmpty || (whole.length > 1 && whole.head? == some 0) then none
  let (fraction, chars) ← match chars with
    | '.' :: rest =>
      match takeDigits rest with
      | ([], _) => none
      | (digits, after) => some (digits, after)
    | rest => some ([], rest)
  match chars with
  | [] => some { negative, whole, fraction, exponent := none }
  | mark :: rest =>
    if mark = 'e' ∨ mark = 'E' then do
      let exponent ← exponent? rest
      some { negative, whole, fraction, exponent := some exponent }
    else none

/-- Appends digits to a significand as long as it fits 64 bits. The digits left out come second. -/
def gather (significand : Nat) : List Nat → Nat × List Nat
  | [] => (significand, [])
  | digit :: rest =>
    if significand * 10 + digit < 0x10000000000000000 then gather (significand * 10 + digit) rest
    else (significand, digit :: rest)

def power (exponent : Nat) : Float :=
  Float.ofScientific 1 false exponent

/-- Scales a floating-point number by a power of ten. Powers beyond `10 ^ 308` are out of range
unless the number is zero, and powers below `10 ^ -308` are divided off in steps. -/
def scale (value : Float) (exponent : Int) : Option Float :=
  if exponent.natAbs ≤ 308 then
    if 0 ≤ exponent then
      let scaled := value * power exponent.natAbs
      if scaled.isInf then none else some scaled
    else some (value / power exponent.natAbs)
  else if value == 0.0 then some value
  else if 0 ≤ exponent then none
  else scale (value / power 308) (exponent + 308)
termination_by exponent.natAbs
decreasing_by omega

/-- The magnitude of a numeral with a point, an exponent or too many digits. An exponent beyond 31
bits makes a number vanish or overflow. -/
def magnitude? (numeral : Numeral) : Option Float :=
  let (significand, cut) := gather 0 numeral.whole
  let (significand, ignored) := gather significand numeral.fraction
  let shift : Int := cut.length - (numeral.fraction.length - ignored.length : Nat)
  let value := Float.ofNat significand
  match numeral.exponent with
  | none => scale value shift
  | some (negative, digits) =>
    let exponent := Decimal.ofDigits digits
    if 0x80000000 ≤ exponent then
      if significand ≠ 0 ∧ !negative then none else some 0.0
    else scale value (if negative then shift - exponent else shift + exponent)

def isPlain (numeral : Numeral) : Bool :=
  numeral.fraction.isEmpty && numeral.exponent.isNone

def number? (numeral : Numeral) : Option Number :=
  let whole := Decimal.ofDigits numeral.whole
  if numeral.isPlain && !numeral.negative && whole < 0x10000000000000000 then Number.ofInt? whole
  else if numeral.isPlain && numeral.negative && whole ≠ 0 && whole ≤ 0x8000000000000000 then
    Number.ofInt? (-(whole : Int))
  else do
    let magnitude ← numeral.magnitude?
    Number.ofFloat? (if numeral.negative then -magnitude else magnitude)

end Numeral

end SqlMapper.Json
