import SqlMapper.Calendar.Instant
import SqlMapper.Text.Blank

/-!
Reading dates and times from text.

`rfc3339?` reads the strict form with a zone. `dateTime?` and `date?` read looser forms without
one: numbers may have fewer digits and blanks in front, and a year may have a sign.
-/

namespace SqlMapper.Calendar

abbrev Reader := StateT (List Char) Option

namespace Reader

def expect (accept : Char → Bool) : Reader Char := fun
  | char :: rest => if accept char then some (char, rest) else none
  | [] => none

def char (wanted : Char) : Reader Unit := do
  let _ ← expect (· == wanted)

def blanks : Reader Unit := fun chars => some ((), Text.trimFront chars)

/-- The digits at the front, at most `most` of them. -/
def takeDigits : (most : Nat) → List Char → List Nat × List Char
  | 0, chars => ([], chars)
  | _, [] => ([], [])
  | most + 1, char :: rest =>
    match Decimal.digit? char with
    | some digit =>
      let (digits, after) := takeDigits most rest
      (digit :: digits, after)
    | none => ([], char :: rest)

def digits (least most : Nat) : Reader (List Nat) := fun chars =>
  let (taken, after) := takeDigits most chars
  if least ≤ taken.length then some (taken, after) else none

def allDigits : Reader (List Nat) := fun chars => digits 1 chars.length chars

def fixed (places : Nat) : Reader Nat := do
  return Decimal.ofDigits (← digits places places)

/-- A number of one or two digits after any blanks. -/
def short : Reader Nat := do
  blanks
  return Decimal.ofDigits (← digits 1 2)

/-- An optional fraction of a second in nanoseconds. Digits beyond the ninth are skipped. -/
def fraction : Reader Nat := fun
  | '.' :: rest => do
    let (digits, after) ← allDigits rest
    some (Decimal.ofDigits ((digits ++ List.replicate 9 0).take 9), after)
  | chars => some (0, chars)

/-- A year after any blanks: up to four digits, or a sign and any number of digits. -/
def year : Reader Int := do
  blanks
  fun
    | '-' :: rest => do
      let (digits, after) ← allDigits rest
      some (-(Decimal.ofDigits digits : Int), after)
    | '+' :: rest => do
      let (digits, after) ← allDigits rest
      some ((Decimal.ofDigits digits : Int), after)
    | chars => do
      let (digits, after) ← digits 1 4 chars
      some ((Decimal.ofDigits digits : Int), after)

def readAll? {α : Type} (reader : Reader α) (chars : List Char) : Option α :=
  match reader chars with
  | some (value, []) => some value
  | _ => none

end Reader

open Reader

/-- The distance of a zone from universal time in seconds: `Z`, or a sign, hours and minutes. -/
def zone : Reader Int := do
  let sign ← expect fun char =>
    char == 'Z' || char == 'z' || char == '+' || char == '-' || char == Char.ofNat 0x2212
  if sign == 'Z' || sign == 'z' then return 0
  let hours ← fixed 2
  char ':'
  let minutes ← fixed 2
  guard (hours < 24 ∧ minutes < 60)
  let distance : Int := hours * 3600 + minutes * 60
  return if sign == '+' then distance else -distance

/-- The strict form `YYYY-MM-DDTHH:MM:SS.f` with a zone, where a `t` or a space may stand for the
`T` and the fraction is optional. -/
def rfc3339 : Reader Instant := do
  let year ← fixed 4
  char '-'
  let month ← fixed 2
  char '-'
  let day ← fixed 2
  let _ ← expect fun char => char == 'T' || char == 't' || char == ' '
  let hour ← fixed 2
  char ':'
  let minute ← fixed 2
  char ':'
  let second ← fixed 2
  let nanosecond ← fraction
  let distance ← zone
  let date ← Date.ofCivil? { year, month, day }
  let instant ← Instant.ofClock? date hour minute second nanosecond
  instant.earlier? distance

def looseDate : Reader Civil := do
  let year ← Reader.year
  char '-'
  let month ← short
  char '-'
  let day ← short
  return { year, month, day }

def looseDateTime (separator : Reader Unit) : Reader Instant := do
  let civil ← looseDate
  separator
  let hour ← short
  char ':'
  let minute ← short
  char ':'
  let second ← short
  let nanosecond ← fraction
  let date ← Date.ofCivil? civil
  Instant.ofClock? date hour minute second nanosecond

def rfc3339? (text : String) : Option Instant :=
  readAll? rfc3339 text.toList

def dateTime? (text : String) : Option Instant :=
  readAll? (looseDateTime (char 'T')) text.toList

def spacedDateTime? (text : String) : Option Instant :=
  readAll? (looseDateTime blanks) text.toList

def date? (text : String) : Option Instant := do
  let date ← Date.ofCivil? (← readAll? looseDate text.toList)
  Instant.ofClock? date 0 0 0 0

end SqlMapper.Calendar
