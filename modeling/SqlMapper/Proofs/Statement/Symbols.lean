import SqlMapper.Proofs.Statement.References

namespace SqlMapper

/-! The symbols of a statement text.

A reader goes through a text once, character by character.  It takes the names in
brackets out of their brackets and the references from behind their `@`, and leaves
every other character as it stands.  In rendered text it finds the names and the
references of the pieces.
-/

variable {chars content read : List Char}

namespace Sql

inductive Symbol where
  | char (char : Char)
  | name (identifier : String)
  | parameter (name : String)
deriving DecidableEq, Repr

/-- What a reader is in the middle of, with the characters read so far. -/
inductive Reading where
  | words
  | reference (read : List Char)
  | name (read : List Char)
  /-- Behind a closing bracket, which ends the name unless another one follows. -/
  | closing (read : List Char)

namespace Reading

/-- What a text that ends here still holds. -/
def left : Reading → List Symbol
  | .words => []
  | .reference read => [.parameter (String.ofList read)]
  | .name read | .closing read => [.name (String.ofList read)]

def start (char : Char) : List Symbol × Reading :=
  if char = '@' then ([], .reference [])
  else if char = '[' then ([], .name [])
  else ([.char char], .words)

/-- The symbols that a character completes, and where the reader is behind it. -/
def step (reading : Reading) (char : Char) : List Symbol × Reading :=
  match reading with
  | .words => start char
  | .reference read =>
    if isNameChar char then ([], .reference (read ++ [char]))
    else (.parameter (String.ofList read) :: (start char).1, (start char).2)
  | .name read => if char = ']' then ([], .closing read) else ([], .name (read ++ [char]))
  | .closing read =>
    if char = ']' then ([], .name (read ++ [char]))
    else (.name (String.ofList read) :: (start char).1, (start char).2)

def symbols : Reading → List Char → List Symbol
  | reading, [] => reading.left
  | reading, char :: rest => (reading.step char).1 ++ symbols (reading.step char).2 rest

theorem symbols_words (plain : ∀ char ∈ content, char ≠ '@' ∧ char ≠ '[') :
    symbols .words (content ++ chars) = content.map .char ++ symbols .words chars := by
  induction content with
  | nil => rfl
  | cons char content ih =>
      obtain ⟨⟨noReference, noName⟩, others⟩ := List.forall_mem_cons.mp plain
      have here : step .words char = ([.char char], .words) := by
        simp [step, start, noReference, noName]
      rw [List.cons_append, symbols, here, ih others]
      rfl

theorem symbols_reference (named : ∀ char ∈ content, isNameChar char = true) :
    symbols (.reference read) (content ++ chars) = symbols (.reference (read ++ content)) chars := by
  induction content generalizing read with
  | nil => simp
  | cons char content ih =>
      obtain ⟨here, others⟩ := List.forall_mem_cons.mp named
      simp [symbols, step, here, ih others]

/-- A reference ends where no name character follows. -/
theorem symbols_reference_end (ended : ∀ char ∈ chars.head?, isNameChar char = false) :
    symbols (.reference read) chars =
      .parameter (String.ofList read) :: symbols .words chars := by
  cases chars with
  | nil => rfl
  | cons char chars => simp [symbols, step, ended char rfl]

theorem symbols_name (read : List Char) :
    symbols (.name read) (doubled ']' content ++ ']' :: chars) =
      symbols (.closing (read ++ content)) chars := by
  induction content generalizing read with
  | nil => simp [doubled, symbols, step]
  | cons char content ih =>
      by_cases same : char = ']'
      · subst same
        simpa [doubled, symbols, step] using ih (read ++ [']'])
      · simpa [doubled, symbols, step, same] using ih (read ++ [char])

theorem symbols_closing (ended : ']' ∉ chars.head?) :
    symbols (.closing read) chars = .name (String.ofList read) :: symbols .words chars := by
  cases chars with
  | nil => rfl
  | cons char chars =>
      have other : char ≠ ']' := by simpa using ended
      simp [symbols, step, other]

end Reading

def symbols (text : String) : List Symbol :=
  Reading.symbols .words text.toList

/-- Words that end in a character of some kind. -/
theorem exists_last_of_any {words : String} {kind : Char → Bool}
    (ends : words.toList.getLast?.any kind = true) :
    ∃ front last, words.toList = front ++ [last] ∧ kind last = true := by
  cases last : words.toList.getLast? with
  | none => simp [last] at ends
  | some char =>
      obtain ⟨front, same⟩ := List.getLast?_eq_some_iff.mp last
      exact ⟨front, char, same, by simpa [last] using ends⟩

end Sql

open Sql (Symbol)

def Piece.symbols : Piece → List Symbol
  | .text words => words.toList.map .char
  | .name identifier => [.name identifier]
  | .parameter label => [.parameter label]
  | .literal _ => []

/-- The symbols in the text of a statement are those of its pieces. -/
theorem Sql.symbols_render {sql : Sql} (readable : Readable sql)
    (named : ∀ name ∈ sql.parameters, IsLabel name) :
    symbols (sql.render .sqlServer) = sql.flatMap Piece.symbols := by
  unfold symbols
  -- Behind every piece the reader is between names again, so the rest is read on its own.
  induction sql with
  | nil => rfl
  | cons piece rest ih =>
      rw [render_cons, String.toList_append]
      cases piece with
      | text words =>
          obtain ⟨plain, later⟩ := readable
          have marks : ∀ char ∈ words.toList, char ≠ '@' ∧ char ≠ '[' := fun char member =>
            have apart := plain_iff.mp plain char member
            ⟨apart.1, apart.2.1⟩
          rw [Piece.render, Reading.symbols_words marks, ih later named]
          rfl
      | name identifier =>
          have ended : ']' ∉ (render .sqlServer rest).toList.head? :=
            Readable.head_ne_close readable
          have opened : Reading.step .words '[' = ([], .name []) := rfl
          rw [Piece.render, toList_quote, List.cons_append, List.append_assoc,
            List.singleton_append, Reading.symbols, opened, List.nil_append, Reading.symbols_name,
            Reading.symbols_closing ended, ih readable named]
          simp [Piece.symbols]
      | parameter name =>
          obtain ⟨parted, later⟩ := readable
          obtain ⟨label, others⟩ := List.forall_mem_cons.mp named
          have opened : Reading.step .words '@' = ([], .reference []) := rfl
          rw [Piece.render, toList_parameter, List.cons_append, Reading.symbols, opened,
            List.nil_append, Reading.symbols_reference (List.all_eq_true.mp label),
            Reading.symbols_reference_end parted, ih later others]
          simp [Piece.symbols]
      | literal content => exact readable.elim

end SqlMapper
