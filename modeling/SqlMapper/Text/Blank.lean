/-!
Blank characters and the operations that cut text at them.

`isBlank` is Unicode's White_Space property. `trim` drops blanks from both ends of a text, and
`words` splits a text at its runs of blanks.
-/

namespace SqlMapper.Text

/-- The twenty-five characters that Unicode gives the White_Space property. -/
def isBlank (char : Char) : Bool :=
  let code := char.toNat
  (0x09 ≤ code && code ≤ 0x0D) || code == 0x20 || code == 0x85 || code == 0xA0 ||
    code == 0x1680 || (0x2000 ≤ code && code ≤ 0x200A) || code == 0x2028 || code == 0x2029 ||
    code == 0x202F || code == 0x205F || code == 0x3000

def trimFront (chars : List Char) : List Char :=
  chars.dropWhile isBlank

def trimBack (chars : List Char) : List Char :=
  (chars.reverse.dropWhile isBlank).reverse

def trimmed (chars : List Char) : List Char :=
  trimBack (trimFront chars)

def trim (text : String) : String :=
  String.ofList (trimmed text.toList)

/-- The words of a text: its longest runs without blanks, in order. -/
def words (text : String) : List String :=
  ((text.toList.splitOnP isBlank).filter (!·.isEmpty)).map String.ofList

theorem trimFront_cons_of_blank {char : Char} {rest : List Char} (blank : isBlank char = true) :
    trimFront (char :: rest) = trimFront rest := by
  simp [trimFront, blank]

theorem trimFront_cons_of_not_blank {char : Char} {rest : List Char}
    (solid : isBlank char = false) : trimFront (char :: rest) = char :: rest := by
  simp [trimFront, solid]

end SqlMapper.Text
