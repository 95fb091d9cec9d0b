import SqlMapper.Proofs.Text.Quoting
import SqlMapper.Sql

namespace SqlMapper.Sql

/-! References in the text of a statement.

A reader that knows nothing of pieces skips the names in brackets and takes every
`@` in the rest for a reference, as far as name characters follow.  What it finds
in rendered text is what the pieces say, whatever the names in brackets contain,
if the words of the statement leave the marks of names and references alone.
-/

variable {sql left right rest : Sql} {chars content : List Char} {phrase : String}

def isNameChar (char : Char) : Bool :=
  char.isAlphanum || char == '_' || char == '$' || char == '#' || 0x80 ≤ char.toNat

mutual

/-- The text outside of brackets.  A blank stands for every name. -/
def outside : List Char → List Char
  | [] => []
  | '[' :: rest => ' ' :: inside rest
  | char :: rest => char :: outside rest

/-- The text outside of brackets from within a name on, in which closing brackets
are doubled. -/
def inside : List Char → List Char
  | [] => []
  | ']' :: ']' :: rest => inside rest
  | ']' :: rest => outside rest
  | _ :: rest => inside rest

end

def mentions : List Char → List String
  | [] => []
  | '@' :: rest => String.ofList (rest.takeWhile isNameChar) :: mentions rest
  | _ :: rest => mentions rest

/-- The names behind the references of a text, in order. -/
def references (text : String) : List String :=
  mentions (outside text.toList)

def IsLabel (name : String) : Prop :=
  name.toList.all isNameChar = true

/-- The characters with which references and names in brackets begin and end. -/
def isMark (char : Char) : Bool :=
  char == '@' || char == '[' || char == ']'

def Plain (words : String) : Prop :=
  words.toList.all (!isMark ·) = true

/-- Plain words that may stand behind a reference: their first character does not
continue its name. -/
def Ends (words : String) : Prop :=
  (words.toList.all (!isMark ·) && words.toList.head?.any (!isNameChar ·)) = true

/-- Text that does not continue the name of a reference in front of it. -/
def Parted (sql : Sql) : Prop :=
  ∀ char ∈ (sql.render .sqlServer).toList.head?, isNameChar char = false

/-- Text whose words are plain and whose references end where their names do.  It
holds no literal, in which every mark is taken as it stands. -/
def Readable : Sql → Prop
  | [] => True
  | .text words :: rest => Plain words ∧ Readable rest
  | .name _ :: rest => Readable rest
  | .parameter _ :: rest => Parted rest ∧ Readable rest
  | .literal _ :: _ => False

theorem plain_iff {words : String} :
    Plain words ↔ ∀ char ∈ words.toList, char ≠ '@' ∧ char ≠ '[' ∧ char ≠ ']' := by
  simp [Plain, isMark, and_assoc]

theorem ends_iff {words : String} :
    Ends words ↔ Plain words ∧ words.toList.head?.any (!isNameChar ·) = true :=
  Iff.of_eq (Bool.and_eq_true _ _)

theorem toList_quote (identifier : String) :
    (Dialect.sqlServer.quote identifier).toList =
      '[' :: (doubled ']' identifier.toList ++ [']']) :=
  Dialect.toList_quote .sqlServer identifier

theorem toList_parameter (name : String) :
    (Dialect.sqlServer.parameter name).toList = '@' :: name.toList := by
  simp [Dialect.parameter, Dialect.sqlServer]

theorem outside_append_of_not_mem (free : '[' ∉ content) :
    outside (content ++ chars) = content ++ outside chars := by
  induction content with
  | nil => rfl
  | cons char content ih =>
      rw [List.mem_cons, not_or] at free
      rw [List.cons_append, outside, ih free.2, List.cons_append]
      exact fun same => free.1 same.symm

theorem inside_name (ended : ']' ∉ chars.head?) :
    inside (doubled ']' content ++ ']' :: chars) = outside chars := by
  induction content with
  | nil =>
      cases chars with
      | nil => rfl
      | cons char chars =>
          have other : char ≠ ']' := by simpa using ended
          simp [doubled, inside, other]
  | cons char content ih =>
      by_cases same : char = ']'
      · subst same
        simpa [doubled, inside] using ih
      · simpa [doubled, inside, same] using ih

theorem mentions_append_of_not_mem (free : '@' ∉ content) :
    mentions (content ++ chars) = mentions chars := by
  induction content with
  | nil => rfl
  | cons char content ih =>
      rw [List.mem_cons, not_or] at free
      rw [List.cons_append, mentions, ih free.2]
      exact fun same => free.1 same.symm

/-- The name of a reference ends where no name character follows. -/
theorem mentions_reference (named : ∀ char ∈ content, isNameChar char = true)
    (ended : ∀ char ∈ chars.head?, isNameChar char = false) :
    mentions ('@' :: (content ++ chars)) = String.ofList content :: mentions chars := by
  have taken : (content ++ chars).takeWhile isNameChar = content := by
    rw [List.takeWhile_append_of_pos named]
    cases chars with
    | nil => simp
    | cons char chars => simp [ended char rfl]
  have free : '@' ∉ content := fun member => absurd (named '@' member) (by decide)
  rw [mentions, taken, mentions_append_of_not_mem free]

theorem ended_outside (ended : ∀ char ∈ chars.head?, isNameChar char = false) :
    ∀ char ∈ (outside chars).head?, isNameChar char = false := by
  cases chars with
  | nil => exact ended
  | cons first chars =>
      by_cases name : first = '['
      · subst name
        rintro char ⟨⟩
        rfl
      · rw [outside]
        · exact ended
        · exact name

/-- No readable text begins with a closing bracket, which would double that of a name
in front of it. -/
theorem Readable.head_ne_close (readable : Readable sql) :
    ']' ∉ (sql.render .sqlServer).toList.head? := by
  induction sql with
  | nil => simp
  | cons piece rest ih =>
      cases piece with
      | text words =>
          obtain ⟨plain, later⟩ := readable
          cases letters : words.toList with
          | nil =>
              have empty : words = "" := String.toList_eq_nil_iff.mp letters
              simpa [empty, Piece.render] using ih later
          | cons char letters' =>
              have other := (plain_iff.mp plain char (by simp [letters])).2.2
              simpa [Piece.render, letters, eq_comm] using other
      | name identifier => simp [Piece.render, toList_quote]
      | parameter name => simp [Piece.render, toList_parameter]
      | literal content => exact readable.elim

/-- The references in the text of a statement are those that its pieces say. -/
theorem references_render (readable : Readable sql)
    (named : ∀ name ∈ sql.parameters, IsLabel name) :
    references (sql.render .sqlServer) = sql.parameters := by
  unfold references
  induction sql with
  | nil => rfl
  | cons piece rest ih =>
      rw [render_cons, String.toList_append]
      cases piece with
      | text words =>
          obtain ⟨plain, later⟩ := readable
          have noName : '[' ∉ words.toList := fun member =>
            (plain_iff.mp plain _ member).2.1 rfl
          have noReference : '@' ∉ words.toList := fun member =>
            (plain_iff.mp plain _ member).1 rfl
          rw [Piece.render, outside_append_of_not_mem noName,
            mentions_append_of_not_mem noReference, ih later named]
          rfl
      | name identifier =>
          have ended : ']' ∉ (render .sqlServer rest).toList.head? :=
            Readable.head_ne_close readable
          rw [Piece.render, toList_quote, List.cons_append, List.append_assoc,
            List.singleton_append, outside, inside_name ended, mentions, ih readable named]
          · rfl
          · decide
      | parameter name =>
          obtain ⟨parted, later⟩ := readable
          obtain ⟨label, others⟩ := List.forall_mem_cons.mp named
          have here := List.all_eq_true.mp label
          have noName : '[' ∉ '@' :: name.toList := by
            intro member
            rcases List.mem_cons.mp member with same | member
            · cases same
            · exact absurd (here '[' member) (by decide)
          rw [Piece.render, toList_parameter, outside_append_of_not_mem noName, List.cons_append,
            mentions_reference here (ended_outside parted), String.ofList_toList, ih later others]
          rfl
      | literal content => exact readable.elim

example : references (render .sqlServer
    [.name "a@]b", .text " = (", .parameter "param1", .text ")"]) = ["param1"] := by
  decide

/-! Putting readable text together. -/

theorem Ends.parted (ends : Ends phrase) : Parted (.text phrase :: rest) := by
  have leads := (ends_iff.mp ends).2
  cases letters : phrase.toList with
  | nil => simp [letters] at leads
  | cons first others => simpa [Parted, Piece.render, letters] using leads

theorem Readable.append (first : Readable left) (second : Readable right) (parted : Parted right) :
    Readable (left ++ right) := by
  induction left with
  | nil => exact second
  | cons piece rest ih =>
      cases piece with
      | text phrase => exact ⟨first.1, ih first.2⟩
      | name identifier => exact ih first
      | parameter name =>
          refine ⟨?_, ih first.2⟩
          intro char member
          rw [List.append_eq, render_append, String.toList_append, List.head?_append] at member
          rcases Option.or_eq_some_iff.mp member with here | ⟨_, later⟩
          · exact first.1 char here
          · exact parted char later
      | literal content => exact first.elim

theorem Readable.words (plain : Plain phrase) (later : Readable rest) :
    Readable (.text phrase :: rest) :=
  ⟨plain, later⟩

theorem Readable.quoted {identifier : String} (later : Readable rest) :
    Readable (.name identifier :: rest) :=
  later

theorem Readable.reference {name : String} (ends : Ends phrase) (later : Readable rest) :
    Readable (.parameter name :: .text phrase :: rest) :=
  ⟨ends.parted, (ends_iff.mp ends).1, later⟩

theorem Readable.followed (first : Readable left) (ends : Ends phrase) (later : Readable rest) :
    Readable (left ++ .text phrase :: rest) :=
  first.append ⟨(ends_iff.mp ends).1, later⟩ ends.parted

theorem readable_separated {separator : String} {parts : List Sql} (ends : Ends separator)
    (readable : ∀ part ∈ parts, Readable part) : Readable (separated separator parts) := by
  unfold separated
  induction parts with
  | nil => trivial
  | cons part others ih =>
      obtain ⟨here, later⟩ := List.forall_mem_cons.mp readable
      cases others with
      | nil => simpa using here
      | cons next others =>
          rw [List.intercalate_cons_cons, List.append_assoc]
          exact here.followed ends (ih later)

theorem readable_separated_map {α : Type} {write : α → Sql} {separator : String} {items : List α}
    (ends : Ends separator) (readable : ∀ item, Readable (write item)) :
    Readable (separated separator (items.map write)) := by
  refine readable_separated ends fun part member => ?_
  obtain ⟨item, _, same⟩ := List.mem_map.mp member
  rw [← same]
  exact readable item

theorem Plain.append {words more : String} (first : Plain words) (second : Plain more) :
    Plain (words ++ more) := by
  rw [Plain, String.toList_append, List.all_append, first, second]
  rfl

theorem Ends.append {phrase more : String} (first : Ends phrase) (second : Plain more) :
    Ends (phrase ++ more) := by
  obtain ⟨plain, leads⟩ := ends_iff.mp first
  refine ends_iff.mpr ⟨plain.append second, ?_⟩
  cases letters : phrase.toList with
  | nil => simp [letters] at leads
  | cons char others => simpa [letters] using leads

theorem isDigit_of_mem_toString {number : Nat} {char : Char}
    (member : char ∈ (toString number).toList) : char.isDigit = true := by
  rw [Nat.toString_eq_ofList_toDigits, String.toList_ofList] at member
  exact Nat.isDigit_of_mem_toDigits (by decide) (by decide) member

theorem plain_toString (number : Nat) : Plain (toString number) := by
  refine plain_iff.mpr fun char member => ?_
  have digit := isDigit_of_mem_toString member
  refine ⟨?_, ?_, ?_⟩ <;> rintro rfl <;> cases digit

end SqlMapper.Sql
