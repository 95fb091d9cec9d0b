/-!
Whole numbers in decimal text.

Reading takes an optional sign and then nothing but ASCII digits, at least one, and accepts only
values inside the width asked for. Writing in a fixed number of places fills with zeros.
-/

namespace SqlMapper.Decimal

def digit? (char : Char) : Option Nat :=
  if '0' ≤ char ∧ char ≤ '9' then some (char.toNat - '0'.toNat) else none

def ofDigits (digits : List Nat) : Nat :=
  digits.foldl (fun total digit => 10 * total + digit) 0

def readNat? (chars : List Char) : Option Nat :=
  if chars.isEmpty then none else (chars.mapM digit?).map ofDigits

/-- The value of an optional sign followed by digits. -/
def readInt? : List Char → Option Int
  | '+' :: digits => (readNat? digits).map Int.ofNat
  | '-' :: digits => (readNat? digits).map fun value => -(value : Int)
  | digits => (readNat? digits).map Int.ofNat

def readInt64? (chars : List Char) : Option Int64 := do
  let value ← readInt? chars
  if -0x8000000000000000 ≤ value ∧ value < 0x8000000000000000 then some (Int64.ofInt value)
  else none

/-- A natural number of 64 bits. A plus sign is allowed in front and a minus sign is not. -/
def readUInt64? (chars : List Char) : Option UInt64 := do
  let value ← match chars with
    | '+' :: digits => readNat? digits
    | digits => readNat? digits
  if value < 0x10000000000000000 then some (UInt64.ofNat value) else none

/-- The digits of a number, filled with zeros in front to at least the given number of places. -/
def padded (places value : Nat) : String :=
  let digits := Nat.toDigits 10 value
  String.ofList (List.replicate (places - digits.length) '0' ++ digits)

end SqlMapper.Decimal
