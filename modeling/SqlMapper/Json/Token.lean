import SqlMapper.Json.Numeral

/-!
The tokens of JSON text.

A token that is well formed but has no value is kept with none: a numeral out of range, or a text
with half of a surrogate pair. Whether that matters depends on who reads the token.
-/

namespace SqlMapper.Json

inductive Token where
  | openArray
  | closeArray
  | openObject
  | closeObject
  | colon
  | comma
  | null
  | bool (value : Bool)
  | number (value : Option Number)
  | text (value : Option String)

namespace Token

def isSpace (char : Char) : Bool :=
  char = ' ' || char = '\n' || char = '\r' || char = '\t'

def hexDigit? (char : Char) : Option Nat :=
  if '0' ≤ char ∧ char ≤ '9' then some (char.toNat - '0'.toNat)
  else if 'a' ≤ char ∧ char ≤ 'f' then some (char.toNat - 'a'.toNat + 10)
  else if 'A' ≤ char ∧ char ≤ 'F' then some (char.toNat - 'A'.toNat + 10)
  else none

def escape? : Char → Option Nat
  | '"' => some 0x22
  | '\\' => some 0x5C
  | '/' => some 0x2F
  | 'b' => some 0x08
  | 'f' => some 0x0C
  | 'n' => some 0x0A
  | 'r' => some 0x0D
  | 't' => some 0x09
  | _ => none

/-- Reads up to the closing quote. The result holds a code for every character and escape, where
an escape may be half of a surrogate pair, and the characters behind the quote. -/
def readCodes : List Char → Option (List Nat × List Char)
  | [] => none
  | '"' :: rest => some ([], rest)
  | '\\' :: 'u' :: a :: b :: c :: d :: rest => do
    let code := (← hexDigit? a) * 4096 + (← hexDigit? b) * 256 + (← hexDigit? c) * 16 +
      (← hexDigit? d)
    let (codes, after) ← readCodes rest
    some (code :: codes, after)
  | '\\' :: char :: rest => do
    let code ← escape? char
    let (codes, after) ← readCodes rest
    some (code :: codes, after)
  | char :: rest =>
    if char.toNat < 0x20 then none
    else do
      let (codes, after) ← readCodes rest
      some (char.toNat :: codes, after)

/-- Joins surrogate pairs. Half of a pair on its own is no character. -/
def joinSurrogates : List Nat → Option (List Char)
  | [] => some []
  | code :: rest =>
    if 0xD800 ≤ code ∧ code ≤ 0xDBFF then
      match rest with
      | low :: after =>
        if 0xDC00 ≤ low ∧ low ≤ 0xDFFF then
          (joinSurrogates after).map
            (Char.ofNat (0x10000 + (code - 0xD800) * 0x400 + (low - 0xDC00)) :: ·)
        else none
      | [] => none
    else if 0xDC00 ≤ code ∧ code ≤ 0xDFFF then none
    else (joinSurrogates rest).map (Char.ofNat code :: ·)

def isNumeralChar (char : Char) : Bool :=
  (Decimal.digit? char).isSome || char = '-' || char = '+' || char = '.' || char = 'e' || char = 'E'

/-- The longest run of characters at the front that may stand in a numeral or a word, and the
rest. -/
def takeRun (accept : Char → Bool) : List Char → List Char × List Char
  | [] => ([], [])
  | char :: rest =>
    if accept char then
      let (run, after) := takeRun accept rest
      (char :: run, after)
    else ([], char :: rest)

theorem takeRun_length (accept : Char → Bool) (chars : List Char) :
    (takeRun accept chars).2.length ≤ chars.length := by
  induction chars with
  | nil => simp [takeRun]
  | cons char rest ih =>
    by_cases accepted : accept char
    · simp only [takeRun, accepted, if_true, List.length_cons]
      omega
    · simp [takeRun, accepted]

theorem readCodes_length {chars : List Char} {codes : List Nat} {after : List Char}
    (read : readCodes chars = some (codes, after)) : after.length < chars.length := by
  fun_induction readCodes chars generalizing codes after <;>
    simp_all [bind, Option.bind_eq_some_iff] <;> grind

def punctuation? : Char → Option Token
  | '[' => some .openArray
  | ']' => some .closeArray
  | '\x7b' => some .openObject
  | '\x7d' => some .closeObject
  | ':' => some .colon
  | ',' => some .comma
  | _ => none

def word? (chars : List Char) : Option Token :=
  if chars = ['n', 'u', 'l', 'l'] then some .null
  else if chars = ['t', 'r', 'u', 'e'] then some (.bool true)
  else if chars = ['f', 'a', 'l', 's', 'e'] then some (.bool false)
  else none

def scan (chars : List Char) : Option (List Token) :=
  match chars with
  | [] => some []
  | char :: rest =>
    if isSpace char then scan rest
    else if char = '"' then
      match _read : readCodes rest with
      | none => none
      | some (codes, after) =>
        (scan after).map (.text ((joinSurrogates codes).map String.ofList) :: ·)
    else
      match punctuation? char with
      | some token => (scan rest).map (token :: ·)
      | none =>
        if isNumeralChar char then do
          let numeral ← Numeral.ofChars? (char :: (takeRun isNumeralChar rest).1)
          (scan (takeRun isNumeralChar rest).2).map (.number numeral.number? :: ·)
        else do
          let token ← word? (char :: (takeRun Char.isAlpha rest).1)
          (scan (takeRun Char.isAlpha rest).2).map (token :: ·)
termination_by chars.length
decreasing_by
  · simp
  · have shorter := readCodes_length _read
    simp only [List.length_cons]
    omega
  · simp
  · have shorter := takeRun_length isNumeralChar rest
    simp only [List.length_cons]
    omega
  · have shorter := takeRun_length Char.isAlpha rest
    simp only [List.length_cons]
    omega

end Token

end SqlMapper.Json
