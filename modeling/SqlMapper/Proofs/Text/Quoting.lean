import Mathlib.Logic.Function.Basic
import SqlMapper.Dialect

namespace SqlMapper

/-! Quoted names.

A reader takes a name out of its quotes: up to the first closing delimiter that no other
one follows, with doubled ones taken for one.  In every dialect it finds the name that was
quoted, whatever stands in it, and it finds a name nowhere else.
-/

variable {close : Char} {chars content rest : List Char}

/-- Reads up to a closing delimiter: what stands in front of it and what follows. -/
def readClosed? (close : Char) : List Char → Option (List Char × List Char)
  | [] => none
  | [last] => if last = close then some ([], []) else none
  | first :: second :: rest =>
    if first = close then
      if second = close then
        (readClosed? close rest).map fun (content, after) => (close :: content, after)
      else some ([], second :: rest)
    else
      (readClosed? close (second :: rest)).map fun (content, after) => (first :: content, after)

theorem doubled_cons_self (close : Char) (chars : List Char) :
    doubled close (close :: chars) = close :: close :: doubled close chars := by
  simp [doubled]

theorem doubled_cons_of_ne {char : Char} (other : char ≠ close) (chars : List Char) :
    doubled close (char :: chars) = char :: doubled close chars := by
  simp [doubled, other]

theorem mem_doubled_iff {char : Char} : char ∈ doubled close chars ↔ char ∈ chars := by
  induction chars with
  | nil => rfl
  | cons first chars ih =>
      by_cases same : first = close
      · subst same
        simp [doubled_cons_self, ih]
      · simp [doubled_cons_of_ne same, ih]

theorem readClosed?_cons_of_ne {char : Char} (other : char ≠ close) (chars : List Char) :
    readClosed? close (char :: chars) =
      (readClosed? close chars).map fun (content, after) => (char :: content, after) := by
  cases chars with
  | nil => simp [readClosed?, other]
  | cons next chars => rw [readClosed?, if_neg other]

theorem readClosed?_doubled (ended : close ∉ rest.head?) :
    readClosed? close (doubled close content ++ close :: rest) = some (content, rest) := by
  induction content with
  | nil =>
      cases rest with
      | nil => simp [doubled, readClosed?]
      | cons next rest =>
          have other : next ≠ close := by simpa using ended
          simp [doubled, readClosed?, other]
  | cons char content ih =>
      by_cases same : char = close
      · subst same
        rw [doubled_cons_self, List.cons_append, List.cons_append, readClosed?, if_pos rfl,
          if_pos rfl, ih]
        rfl
      · rw [doubled_cons_of_ne same, List.cons_append, readClosed?_cons_of_ne same, ih]
        rfl

/-- What is read was written with its closing delimiters doubled. -/
theorem eq_of_readClosed? (read : readClosed? close chars = some (content, rest)) :
    chars = doubled close content ++ close :: rest ∧ close ∉ rest.head? := by
  fun_induction readClosed? close chars generalizing content rest with
  | case1 => cases read
  | case2 =>
      cases read
      exact ⟨rfl, nofun⟩
  | case3 => cases read
  | case4 later ih =>
      obtain ⟨⟨inner, after⟩, found, same⟩ := Option.map_eq_some_iff.mp read
      cases same
      obtain ⟨whole, ended⟩ := ih found
      rw [doubled_cons_self, whole]
      exact ⟨rfl, ended⟩
  | case5 second later other =>
      cases read
      exact ⟨rfl, by simpa using other⟩
  | case6 first second later other ih =>
      obtain ⟨⟨inner, after⟩, found, same⟩ := Option.map_eq_some_iff.mp read
      cases same
      obtain ⟨whole, ended⟩ := ih found
      rw [doubled_cons_of_ne other, whole]
      exact ⟨rfl, ended⟩

namespace Dialect

/-- Reads a quoted name at the beginning of a text: the name and what follows it. -/
def unquoted? (dialect : Dialect) : List Char → Option (String × List Char)
  | [] => none
  | first :: chars =>
    if first = dialect.openQuote then
      (readClosed? dialect.closeQuote chars).map fun (content, after) =>
        (String.ofList content, after)
    else none

variable {dialect : Dialect} {name : String}

theorem toList_quote (dialect : Dialect) (name : String) :
    (dialect.quote name).toList =
      dialect.openQuote :: (doubled dialect.closeQuote name.toList ++ [dialect.closeQuote]) := by
  rw [quote, String.toList_ofList]
  rfl

theorem toList_quote_append (dialect : Dialect) (name : String) (rest : List Char) :
    (dialect.quote name).toList ++ rest =
      dialect.openQuote ::
        (doubled dialect.closeQuote name.toList ++ dialect.closeQuote :: rest) := by
  rw [toList_quote]
  simp

theorem unquoted?_eq_some_iff : dialect.unquoted? chars = some (name, rest) ↔
    chars = (dialect.quote name).toList ++ rest ∧ dialect.closeQuote ∉ rest.head? := by
  rw [toList_quote_append]
  constructor
  · intro read
    unfold unquoted? at read
    split at read
    · cases read
    · next first chars =>
      split at read
      · next opened =>
        obtain ⟨⟨content, after⟩, found, same⟩ := Option.map_eq_some_iff.mp read
        cases same
        obtain ⟨whole, ended⟩ := eq_of_readClosed? found
        rw [String.toList_ofList, whole, opened]
        exact ⟨rfl, ended⟩
      · cases read
  · rintro ⟨whole, ended⟩
    rw [whole, unquoted?, if_pos rfl, readClosed?_doubled ended]
    simp

theorem quote_inj {other : String} : dialect.quote name = dialect.quote other ↔ name = other := by
  refine ⟨fun same => ?_, fun same => same ▸ rfl⟩
  have alone (name : String) : dialect.unquoted? (dialect.quote name).toList = some (name, []) :=
    unquoted?_eq_some_iff.mpr ⟨(List.append_nil _).symm, nofun⟩
  have read := (alone name).symm.trans (same ▸ alone other)
  cases read
  rfl

theorem toList_qualified (dialect : Dialect) (schema table : String) :
    (dialect.qualified schema table).toList =
      (dialect.quote schema).toList ++ '.' :: (dialect.quote table).toList := by
  simp [qualified]

/-- Behind the schema comes a point, which is no closing delimiter. -/
theorem qualified_injective (apart : dialect.closeQuote ≠ '.') :
    Function.Injective2 dialect.qualified := by
  intro schema other table next same
  have read (schema table : String) : dialect.unquoted? (dialect.qualified schema table).toList =
      some (schema, '.' :: (dialect.quote table).toList) :=
    unquoted?_eq_some_iff.mpr ⟨toList_qualified dialect schema table, by simpa using apart.symm⟩
  have parts := (read schema table).symm.trans (same ▸ read other next)
  obtain ⟨schemas, tables⟩ := Prod.mk.inj (Option.some.inj parts)
  exact ⟨schemas, quote_inj.mp (String.toList_inj.mp (List.cons.inj tables).2)⟩

/-- With points for closing delimiters it does not show where the schema ends. -/
theorem not_injective_of_point (point : dialect.closeQuote = '.') :
    ¬ Function.Injective2 dialect.qualified := by
  intro injective
  have clash : dialect.qualified "" (String.ofList ['.', dialect.openQuote]) =
      dialect.qualified (String.ofList ['.', dialect.openQuote]) "" := by
    rw [← String.toList_inj]
    simp only [toList_qualified, toList_quote, point, String.toList_ofList, doubled_cons_self]
    by_cases same : dialect.openQuote = '.'
    · simp [same, doubled]
    · simp [same, doubled]
  have lengths := congrArg (fun schema => schema.toList.length) (injective clash).1
  simp at lengths

/-- A quoted name is read as that name in front of all that does not begin with a closing
delimiter, and nothing else is read as a name.  So a table is called in a way of its own
by its schema and its name, unless the closing delimiter is the point between the two. -/
theorem quoted_names_read (dialect : Dialect) :
    (∀ chars name rest, dialect.unquoted? chars = some (name, rest) ↔
      chars = (dialect.quote name).toList ++ rest ∧ dialect.closeQuote ∉ rest.head?) ∧
    (Function.Injective2 dialect.qualified ↔ dialect.closeQuote ≠ '.') :=
  ⟨fun _ _ _ => unquoted?_eq_some_iff,
    fun injective point => not_injective_of_point point injective, qualified_injective⟩

example : sqlServer.unquoted? "[odd]] one] DESC".toList = some ("odd] one", " DESC".toList) := by
  decide

end Dialect

end SqlMapper
