import SqlMapper.Model.Direction
import SqlMapper.Sql
import SqlMapper.Text.Blank

/-!
Sort orders.

A term is a column name and an optional direction behind it. All text in front of the direction is
the name, so a name may hold blanks; a name in brackets is taken out of them. In a list of terms
commas separate the terms.
-/

namespace SqlMapper

structure OrderTerm where
  column : String
  direction : Option Direction := none
deriving DecidableEq, Repr

def undoubled (char : Char) : List Char → List Char
  | first :: second :: rest =>
    if first = char ∧ second = char then char :: undoubled char rest
    else first :: undoubled char (second :: rest)
  | chars => chars

namespace OrderTerm

/-- The plain letter that a character stands for in a direction: case does not matter, and the
long s counts as an s. -/
def foldLetter (char : Char) : Char :=
  if char.toNat = 0x17F then 's' else char.toLower

def isDirectionWord (word : List Char) : Bool :=
  word.map foldLetter == ['a', 's', 'c'] || word.map foldLetter == ['d', 'e', 's', 'c']

/-- Cuts a direction off the end of a text: its last word, if that is a direction and anything
stands in front of it. -/
def cutDirection (chars : List Char) : List Char × Option (List Char) :=
  let solid := fun char => !Text.isBlank char
  let word := (chars.reverse.takeWhile solid).reverse
  let front := (chars.reverse.dropWhile solid).reverse
  if isDirectionWord word && !front.isEmpty then (Text.trimBack front, some word)
  else (chars, none)

/-- The inside of a text in brackets, with doubled closing brackets single; any other text is left
as it is. -/
def unbracketed (chars : List Char) : List Char :=
  match chars with
  | '[' :: rest => if rest.getLast? = some ']' then undoubled ']' rest.dropLast else chars
  | _ => chars

/-- Reads a term. A direction may not stand in the place of the name, and a name may not be
blank. -/
def ofText (text : String) : Except CompileError OrderTerm := do
  let (name, word) := cutDirection (Text.trimmed text.toList)
  let column := unbracketed name
  if (Direction.ofWord? (String.ofList name)).isSome || column.all Text.isBlank then
    throw (.invalidOrder text)
  let direction ← match word with
    | some word => (Direction.ofWord (String.ofList word)).map some
    | none => pure none
  return { column := String.ofList column, direction }

def sql (term : OrderTerm) : Sql :=
  match term.direction with
  | some direction => [.name term.column, .text (" " ++ direction.keyword)]
  | none => [.name term.column]

/-- Cuts a list of terms at its commas. Blanks around a term are dropped, and so are terms of which
nothing is left. -/
def splitList (text : String) : List String :=
  ((text.toList.splitOnP (· = ',')).map Text.trimmed).filter (!·.isEmpty) |>.map String.ofList

end OrderTerm

end SqlMapper
