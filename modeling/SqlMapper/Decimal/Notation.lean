import SqlMapper.Decimal.Shortest

/-!
How a floating-point number is written.

The digits are the shortest that identify the number. A `Notation` says which powers of ten are
written with a plain point and how the others show their exponent.
-/

namespace SqlMapper.Decimal

/-- The choices of a written form: leading digits between `10 ^ lowest` and `10 ^ highest` are
written with a plain point, all others with an exponent after `mark`. -/
structure Notation where
  lowest : Int
  highest : Int
  mark : Char
  plus : String

private def zeros (count : Nat) : List Char :=
  List.replicate count '0'

/-- The digits with a point in place: a whole number keeps one zero behind the point. -/
def plain (digits : List Char) : (exponent : Int) → List Char
  | .ofNat power =>
    let whole := digits.take (power + 1)
    let fraction := digits.drop (power + 1)
    whole ++ zeros (power + 1 - digits.length) ++
      '.' :: if fraction.isEmpty then ['0'] else fraction
  | .negSucc power => '0' :: '.' :: zeros power ++ digits

/-- The digits with a point after the first one, and the exponent. A single digit has no point. -/
def Notation.exponential (form : Notation) (digits : List Char) (exponent : Int) : List Char :=
  let mantissa := match digits with
    | [] => []
    | [digit] => [digit]
    | digit :: rest => digit :: '.' :: rest
  let sign := if 0 ≤ exponent then form.plus.toList else ['-']
  mantissa ++ form.mark :: sign ++ Nat.toDigits 10 exponent.natAbs

/-- Writes a finite floating-point number. Both zeros keep their sign. -/
def Notation.render (form : Notation) (value : Float) : String :=
  let number := Binary.ofFloat value
  let magnitude :=
    if number.significand = 0 then ['0', '.', '0']
    else
      let scientific := shortest number
      let digits := scientific.digits.map fun digit => Nat.digitChar digit
      if form.lowest ≤ scientific.exponent ∧ scientific.exponent ≤ form.highest then
        plain digits scientific.exponent
      else form.exponential digits scientific.exponent
  String.ofList (if number.negative then '-' :: magnitude else magnitude)

end SqlMapper.Decimal
