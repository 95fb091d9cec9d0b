import SqlMapper.Json.Basic
import SqlMapper.Decimal.Notation

/-!
The compact text of a JSON document: no blanks, members in order, and only the characters escaped
that JSON cannot hold as they are.
-/

namespace SqlMapper.Json

/-- Numbers have a plain point from `0.00001` up to sixteen places, and an exponent outside. -/
def numberNotation : Decimal.Notation where
  lowest := -5
  highest := 15
  mark := 'e'
  plus := "+"

def Number.compact : Number → String
  | .whole value _ _ => toString value
  | .real value _ => numberNotation.render value

def escaped (char : Char) : List Char :=
  if char = '"' then ['\\', '"']
  else if char = '\\' then ['\\', '\\']
  else if 0x20 ≤ char.toNat then [char]
  else if char = '\n' then ['\\', 'n']
  else if char = '\r' then ['\\', 'r']
  else if char = '\t' then ['\\', 't']
  else if char.toNat = 0x08 then ['\\', 'b']
  else if char.toNat = 0x0C then ['\\', 'f']
  else
    ['\\', 'u', '0', '0', Nat.digitChar (char.toNat / 16), Nat.digitChar (char.toNat % 16)]

def quoted (text : String) : String :=
  String.ofList ('"' :: text.toList.flatMap escaped ++ ['"'])

mutual

def compact : Json → String
  | .null => "null"
  | .bool true => "true"
  | .bool false => "false"
  | .number value => value.compact
  | .text value => quoted value
  | .array items => "[" ++ String.intercalate "," (compactItems items) ++ "]"
  | .object members => "\x7b" ++ String.intercalate "," (compactMembers members) ++ "\x7d"

def compactItems : List Json → List String
  | [] => []
  | item :: rest => item.compact :: compactItems rest

def compactMembers : List (String × Json) → List String
  | [] => []
  | (key, value) :: rest => (quoted key ++ ":" ++ value.compact) :: compactMembers rest

end

end SqlMapper.Json
