import SqlMapper.Text.CaseTable

/-!
Upper and lower case of whole texts, by Unicode's full mappings.

`upper` may lengthen a text (`ß` becomes `SS`). `lower` writes a capital sigma as the final form
`ς` at the end of a word and as `σ` elsewhere, and a dotted capital I as `i` with a combining dot.
-/

namespace SqlMapper.Text

def upperOf (char : Char) : List Char :=
  if char.toNat < 0x80 then [char.toUpper]
  else
    match CaseTable.upperExpansions.lookup char.toNat with
    | some codes => codes.map Char.ofNat
    | none =>
      match CaseTable.shifted? CaseTable.upperRuns char.toNat with
      | some code => [Char.ofNat code]
      | none => [char]

/-- The lower case of one character outside any word. -/
def lowerOf (char : Char) : List Char :=
  if char.toNat < 0x80 then [char.toLower]
  else if char.toNat == 0x130 then ['i', Char.ofNat 0x307]
  else
    match CaseTable.shifted? CaseTable.lowerRuns char.toNat with
    | some code => [Char.ofNat code]
    | none => [char]

def upper (text : String) : String :=
  String.ofList (text.toList.flatMap upperOf)

/-- Whether a cased character follows once characters that casing ignores are passed over. -/
def meetsCased (chars : List Char) : Bool :=
  match chars.dropWhile fun char => CaseTable.within CaseTable.ignorableRanges char.toNat with
  | [] => false
  | char :: _ => CaseTable.within CaseTable.casedRanges char.toNat

/-- The lower case of the characters in `rest`, which follow those in `before`, last one first. -/
def lowerAfter (before : List Char) : List Char → List Char
  | [] => []
  | char :: rest =>
    let lowered :=
      if char.toNat == 0x3A3 then
        [Char.ofNat (if meetsCased before && !meetsCased rest then 0x3C2 else 0x3C3)]
      else lowerOf char
    lowered ++ lowerAfter (char :: before) rest

def lower (text : String) : String :=
  String.ofList (lowerAfter [] text.toList)

end SqlMapper.Text
