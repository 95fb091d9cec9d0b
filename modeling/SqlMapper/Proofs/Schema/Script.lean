import SqlMapper.Proofs.Statement.References
import SqlMapper.Text.Blank

namespace SqlMapper

namespace Script

/-! Statements that define tables, as a database reads them.

A reader goes through a text once.  It takes the names out of their brackets and
the literals out of their quotes, gathers the other letters to words and drops the
blanks.  What it finds in rendered text is what it finds in each piece, if no piece
goes on into the next one.
-/

open Sql (isNameChar toList_quote)

variable {chars content read : List Char} {char : Char} {piece : Piece} {sql rest : Sql}

inductive Quotation where
  | name
  | literal
deriving DecidableEq, Repr

/-- The character that ends a quotation.  Within one it is doubled. -/
def Quotation.close : Quotation → Char
  | .name => ']'
  | .literal => apostrophe

inductive Token where
  | word (letters : String)
  | mark (char : Char)
  | quoted (quotation : Quotation) (content : String)
deriving DecidableEq, Repr

/-- What a reader is in the middle of, with the characters read so far. -/
inductive Reading where
  | between
  | word (read : List Char)
  | inside (quotation : Quotation) (read : List Char)
  /-- Behind a character that ends the quotation unless another one follows. -/
  | closing (quotation : Quotation) (read : List Char)
deriving DecidableEq, Repr

namespace Reading

/-- What a text that ends here still holds. -/
def left : Reading → List Token
  | .between => []
  | .word read => [.word (String.ofList read)]
  | .inside quotation read | .closing quotation read => [.quoted quotation (String.ofList read)]

def continues : Reading → Char → Bool
  | .between, _ => false
  | .word _, char => isNameChar char
  | .inside .., _ => true
  | .closing quotation _, char => char == quotation.close

def extend (char : Char) : Reading → Reading
  | .between => .between
  | .word read => .word (read ++ [char])
  | .inside quotation read =>
    if char = quotation.close then .closing quotation read else .inside quotation (read ++ [char])
  | .closing quotation read => .inside quotation (read ++ [char])

def start (char : Char) : List Token × Reading :=
  if isNameChar char then ([], .word [char])
  else if char = '[' then ([], .inside .name [])
  else if char = apostrophe then ([], .inside .literal [])
  else if Text.isBlank char then ([], .between)
  else ([.mark char], .between)

/-- The tokens that a character completes, and where the reader is behind it. -/
def step (reading : Reading) (char : Char) : List Token × Reading :=
  if reading.continues char then ([], reading.extend char)
  else (reading.left ++ (start char).1, (start char).2)

/-- The tokens that a text completes, and where the reader is behind it. -/
def scan : Reading → List Char → List Token × Reading
  | reading, [] => ([], reading)
  | reading, char :: rest =>
    let (found, next) := reading.step char
    let (others, last) := scan next rest
    (found ++ others, last)

def tokens (reading : Reading) (chars : List Char) : List Token :=
  (reading.scan chars).1 ++ (reading.scan chars).2.left

theorem scan_append (reading : Reading) (chars content : List Char) :
    reading.scan (chars ++ content) =
      ((reading.scan chars).1 ++ ((reading.scan chars).2.scan content).1,
        ((reading.scan chars).2.scan content).2) := by
  induction chars generalizing reading with
  | nil => simp [scan]
  | cons char chars ih => simp [scan, ih]

theorem scan_word (named : ∀ char ∈ content, isNameChar char = true) :
    scan (.word read) content = ([], .word (read ++ content)) := by
  induction content generalizing read with
  | nil => simp [scan]
  | cons char content ih =>
      obtain ⟨here, others⟩ := List.forall_mem_cons.mp named
      simp [scan, step, continues, extend, here, ih others]

theorem scan_letters (named : ∀ char ∈ content, isNameChar char = true) (given : content ≠ []) :
    scan .between content = ([], .word content) := by
  cases content with
  | nil => exact absurd rfl given
  | cons char content =>
      obtain ⟨here, others⟩ := List.forall_mem_cons.mp named
      simp [scan, step, continues, left, start, here, scan_word others]

theorem scan_inside (quotation : Quotation) (read content : List Char) :
    scan (.inside quotation read) (doubled quotation.close content) =
      ([], .inside quotation (read ++ content)) := by
  induction content generalizing read with
  | nil => simp [scan, doubled]
  | cons char content ih =>
      -- One character that closes leads to `closing`, and its double leads back inside.
      have later := ih (read ++ [char])
      rw [doubled] at later
      by_cases same : char = quotation.close
      · subst same
        simp [scan, doubled, step, continues, extend, later]
      · simp [scan, doubled, step, continues, extend, same, later]

/-- A quotation ends with the character that closes it, unless another one follows. -/
theorem scan_quotation (quotation : Quotation) (content : List Char) :
    scan (.inside quotation []) (doubled quotation.close content ++ [quotation.close]) =
      ([], .closing quotation content) := by
  rw [scan_append, scan_inside]
  simp [scan, step, continues, extend]

theorem tokens_of_stopped {reading : Reading}
    (stopped : ∀ char ∈ chars.head?, reading.continues char = false) :
    reading.tokens chars = reading.left ++ tokens .between chars := by
  cases chars with
  | nil => simp [tokens, scan, left]
  | cons char chars =>
      have apart := stopped char rfl
      simp only [tokens, scan, step, apart]
      simp [continues, left]

/-- A text is read in two parts if the first one does not go on into the second. -/
theorem tokens_append {reading : Reading}
    (stopped : ∀ char ∈ content.head?, (reading.scan chars).2.continues char = false) :
    reading.tokens (chars ++ content) = reading.tokens chars ++ tokens .between content := by
  have later := tokens_of_stopped stopped
  rw [tokens, tokens, scan_append, List.append_assoc, List.append_assoc, ← later]
  rfl

/-- Whether a text that ends here ends outside of all quotations. -/
def isClosed : Reading → Bool
  | .inside .. => false
  | _ => true

end Reading

def tokens (text : String) : List Token :=
  Reading.tokens .between text.toList

/-- Whether a character goes on with nothing in front of it but an open quotation. -/
def parts (char : Char) : Bool :=
  !isNameChar char && char != ']' && char != apostrophe

theorem Reading.continues_of_parts {reading : Reading} (closed : reading.isClosed = true)
    (parted : parts char = true) : reading.continues char = false := by
  simp only [parts, Bool.and_eq_true, Bool.not_eq_true', bne_iff_ne] at parted
  obtain ⟨⟨letter, bracket⟩, quote⟩ := parted
  cases reading with
  | between => rfl
  | word read => exact letter
  | inside quotation read => cases closed
  | closing quotation read =>
      cases quotation with
      | name => exact beq_false_of_ne bracket
      | literal => exact beq_false_of_ne quote

end Script

open Script (Reading Token parts)

namespace Piece

def tokens (piece : Piece) : List Token :=
  Script.tokens (piece.render .sqlServer)

/-- Where a reader is behind a piece. -/
def ending (piece : Piece) : Reading :=
  (Reading.scan .between (piece.render .sqlServer).toList).2

theorem scan_name (identifier : String) :
    Reading.scan .between ((name identifier).render .sqlServer).toList =
      ([], .closing .name identifier.toList) := by
  have opened : Reading.step .between '[' = ([], .inside .name []) := rfl
  rw [render, Sql.toList_quote, Reading.scan, opened]
  exact Reading.scan_quotation .name identifier.toList

theorem scan_literal (content : String) :
    Reading.scan .between ((literal content).render .sqlServer).toList =
      ([.word "N"], .closing .literal content.toList) := by
  have letter : Reading.step .between 'N' = ([], .word ['N']) := rfl
  have opened : Reading.step (.word ['N']) apostrophe = ([.word "N"], .inside .literal []) := rfl
  have quoted := Reading.scan_quotation .literal content.toList
  rw [Script.Quotation.close] at quoted
  rw [render, textLiteral, String.toList_ofList, List.cons_append, List.cons_append]
  simp only [Reading.scan, letter, opened, quoted]
  rfl

@[simp]
theorem tokens_name (identifier : String) :
    (name identifier).tokens = [.quoted .name identifier] := by
  rw [tokens, Script.tokens, Reading.tokens, scan_name]
  simp [Reading.left]

@[simp]
theorem tokens_literal (content : String) :
    (literal content).tokens = [.word "N", .quoted .literal content] := by
  rw [tokens, Script.tokens, Reading.tokens, scan_literal]
  simp [Reading.left]

theorem isClosed_name (identifier : String) : (name identifier).ending.isClosed = true := by
  rw [ending, scan_name]
  rfl

theorem isClosed_literal (content : String) : (literal content).ending.isClosed = true := by
  rw [ending, scan_literal]
  rfl

end Piece

namespace Sql

def tokens (sql : Sql) : List Token :=
  sql.flatMap Piece.tokens

/-- Text whose pieces leave no quotation open and do not go on into one another. -/
def Legible : Sql → Prop
  | [] => True
  | piece :: rest =>
    piece.ending.isClosed = true ∧
      (∀ char ∈ (render .sqlServer rest).toList.head?, piece.ending.continues char = false) ∧
      Legible rest

/-- A reader finds in a text what it finds in the pieces. -/
theorem tokens_render (legible : Legible sql) :
    Script.tokens (sql.render .sqlServer) = sql.tokens := by
  induction sql with
  | nil => rfl
  | cons piece rest ih =>
      obtain ⟨_, stopped, later⟩ := legible
      have parted := Reading.tokens_append stopped
      rw [render_cons, Script.tokens, String.toList_append, parted, tokens, List.flatMap_cons]
      exact congrArg (piece.tokens ++ ·) (ih later)

@[simp]
theorem tokens_nil : tokens [] = [] := rfl

@[simp]
theorem tokens_cons (piece : Piece) (rest : Sql) :
    tokens (piece :: rest) = piece.tokens ++ tokens rest :=
  List.flatMap_cons

@[simp]
theorem tokens_append (first second : Sql) :
    tokens (first ++ second) = tokens first ++ tokens second :=
  List.flatMap_append

/-! Putting legible text together. -/

/-- Text that goes on with no closed piece in front of it. -/
def Detached (sql : Sql) : Prop :=
  ∀ char ∈ (sql.render .sqlServer).toList.head?, parts char = true

theorem detached_append (leads : chars.head?.any parts = true) (more : String) :
    Detached (.text (String.ofList chars ++ more) :: rest) := by
  cases chars with
  | nil => cases leads
  | cons first others => simpa [Detached, Piece.render] using leads

theorem detached_text (leads : chars.head?.any parts = true) :
    Detached (.text (String.ofList chars) :: rest) := by
  rw [← String.append_empty (s := String.ofList chars)]
  exact detached_append leads ""

theorem Legible.settled (settled : (Reading.scan .between chars).2 = .between)
    (later : Legible rest) : Legible (.text (String.ofList chars) :: rest) := by
  have ended : (Piece.text (String.ofList chars)).ending = .between := by
    rw [Piece.ending, Piece.render, String.toList_ofList, settled]
  rw [Legible, ended]
  exact ⟨rfl, fun _ _ => rfl, later⟩

theorem legible_single (closed : piece.ending.isClosed = true) : Legible [piece] := by
  refine ⟨closed, fun char member => ?_, trivial⟩
  cases member

theorem legible_text (closed : (Reading.scan .between chars).2.isClosed = true) :
    Legible [.text (String.ofList chars)] := by
  refine legible_single ?_
  rw [Piece.ending, Piece.render, String.toList_ofList, closed]

theorem legible_name (identifier : String) : Legible [.name identifier] :=
  legible_single (Piece.isClosed_name identifier)

theorem legible_literal (content : String) : Legible [.literal content] :=
  legible_single (Piece.isClosed_literal content)

theorem Legible.append {first second : Sql} (legible : Legible first) (later : Legible second)
    (detached : Detached second) : Legible (first ++ second) := by
  induction first with
  | nil => exact later
  | cons piece rest ih =>
      obtain ⟨closed, stopped, legible⟩ := legible
      refine ⟨closed, fun char member => ?_, ih legible⟩
      rw [List.append_eq, render_append, String.toList_append, List.head?_append] at member
      rcases Option.or_eq_some_iff.mp member with here | ⟨_, after⟩
      · exact stopped char here
      · exact Reading.continues_of_parts closed (detached char after)

/-- Words that neither go on with what is in front of them nor into what follows. -/
structure StandApart (chars : List Char) : Prop where
  leads : chars.head?.any parts = true
  settled : (Reading.scan .between chars).2 = .between

instance : DecidablePred StandApart := fun _ =>
  decidable_of_iff (_ ∧ _) ⟨fun both => ⟨both.1, both.2⟩, fun both => ⟨both.leads, both.settled⟩⟩

theorem Legible.followed {first : Sql} (legible : Legible first) (apart : StandApart chars)
    (later : Legible rest) : Legible (first ++ .text (String.ofList chars) :: rest) :=
  legible.append (.settled apart.settled later) (detached_text apart.leads)

theorem legible_separated {parts : List Sql} (apart : StandApart chars)
    (legible : ∀ part ∈ parts, Legible part) :
    Legible (separated (String.ofList chars) parts) := by
  unfold separated
  induction parts with
  | nil => trivial
  | cons part others ih =>
      obtain ⟨here, later⟩ := List.forall_mem_cons.mp legible
      cases others with
      | nil => simpa using here
      | cons next others =>
          rw [List.intercalate_cons_cons, List.append_assoc]
          exact here.followed apart (ih later)

theorem legible_flatMap {α : Type} {write : α → Sql} {items : List α}
    (legible : ∀ item, Legible (write item)) (detached : ∀ item, Detached (write item)) :
    Legible (items.flatMap write) := by
  have starts (items : List α) : Detached (items.flatMap write) := by
    induction items with
    | nil => simp [Detached]
    | cons item items ih =>
        intro char member
        rw [List.flatMap_cons, render_append, String.toList_append, List.head?_append] at member
        rcases Option.or_eq_some_iff.mp member with here | ⟨_, later⟩
        · exact detached item char here
        · exact ih char later
  induction items with
  | nil => trivial
  | cons item items ih => exact (legible item).append ih (starts items)

end Sql

end SqlMapper
