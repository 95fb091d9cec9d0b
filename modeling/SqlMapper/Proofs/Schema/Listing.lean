import Mathlib.Data.List.Forall2
import SqlMapper.Proofs.Schema.Script

namespace SqlMapper

namespace Script

/-! The lists in the text of a script.

Behind the word `TABLE` or `INDEX` and a name there is a list in parentheses.  The
names that its items begin with are the columns that a table declares, or those that
an index covers.
-/

structure Listing where
  keyword : String
  names : List String
deriving DecidableEq, Repr

/-- Where a reader of lists is, with the list read so far.  Within an item it counts
the open parentheses. -/
inductive Place where
  | outside
  | announced (keyword : String)
  | leading (keyword : String) (names : List String)
  | within (keyword : String) (names : List String) (depth : Nat)
deriving DecidableEq, Repr

variable {keyword : String} {chars : List Char} {place next last : Place}
  {found more : List Listing} {rest : Sql}

namespace Place

def stepWithin (keyword : String) (names : List String) : Nat → Token → List Listing × Place
  | depth, .mark '(' => ([], .within keyword names (depth + 1))
  | 0, .mark ')' => ([{ keyword, names }], .outside)
  | depth + 1, .mark ')' => ([], .within keyword names depth)
  | 0, .mark ',' => ([], .leading keyword names)
  | depth, _ => ([], .within keyword names depth)

/-- The lists that a token completes, and where the reader is behind it. -/
def step : Place → Token → List Listing × Place
  | .outside, .word letters =>
    ([], if letters = "TABLE" ∨ letters = "INDEX" then .announced letters else .outside)
  | .outside, _ => ([], .outside)
  | .announced keyword, .mark '(' => ([], .leading keyword [])
  | .announced keyword, _ => ([], .announced keyword)
  | .leading keyword names, .quoted .name identifier =>
    ([], .within keyword (names ++ [identifier]) 0)
  | .leading keyword names, token => stepWithin keyword names 0 token
  | .within keyword names depth, token => stepWithin keyword names depth token

def run : Place → List Token → List Listing × Place
  | place, [] => ([], place)
  | place, token :: rest =>
    let (found, next) := place.step token
    let (others, last) := run next rest
    (found ++ others, last)

theorem run_append (place : Place) (first second : List Token) :
    place.run (first ++ second) =
      ((place.run first).1 ++ ((place.run first).2.run second).1,
        ((place.run first).2.run second).2) := by
  induction first generalizing place with
  | nil => simp [run]
  | cons token first ih => simp [run, ih]

end Place

/-- The lists of a text, in order. -/
def listings (text : String) : List Listing :=
  (Place.run .outside (tokens text)).1

/-- Pieces take a reader from one place to another and complete some lists. -/
def Place.Walks (place : Place) (sql : Sql) (found : List Listing) (next : Place) : Prop :=
  place.run sql.tokens = (found, next)

theorem walks_text (read : place.run (Reading.tokens .between chars) = (found, next)) :
    place.Walks [.text (String.ofList chars)] found next := by
  have same : Sql.tokens [.text (String.ofList chars)] = Reading.tokens .between chars := by
    simp [Piece.tokens, Piece.render, tokens]
  rw [Place.Walks, same, read]

namespace Place

theorem walks_nil (place : Place) : place.Walks [] [] place := rfl

theorem Walks.append {first second : Sql} (walk : place.Walks first found next)
    (later : next.Walks second more last) : place.Walks (first ++ second) (found ++ more) last := by
  rw [Walks] at walk later
  rw [Walks, Sql.tokens_append, run_append, walk, later]

/-- Goes on behind pieces that complete no list. -/
theorem Walks.on {first second : Sql} (walk : place.Walks first [] next)
    (later : next.Walks second found last) : place.Walks (first ++ second) found last :=
  walk.append later

theorem Walks.words (read : place.run (Reading.tokens .between chars) = ([], next))
    (later : next.Walks rest found last) :
    place.Walks (.text (String.ofList chars) :: rest) found last :=
  (walks_text read).on later

theorem Walks.name {identifier : String}
    (read : place.step (.quoted .name identifier) = ([], next))
    (later : next.Walks rest found last) : place.Walks (.name identifier :: rest) found last := by
  have walk : place.Walks [.name identifier] [] next := by simp [Walks, run, read]
  exact walk.on later

theorem Walks.literal {content : String} (later : Place.outside.Walks rest found last) :
    Place.outside.Walks (.literal content :: rest) found last := by
  have walk : Place.outside.Walks [.literal content] [] .outside := by simp [Walks, run, step]
  exact walk.on later

end Place

theorem walks_flatMap {α : Type} {write : α → Sql} {listing : α → Listing}
    (each : ∀ item, Place.outside.Walks (write item) [listing item] .outside) (items : List α) :
    Place.outside.Walks (items.flatMap write) (items.map listing) .outside := by
  induction items with
  | nil => exact Place.outside.walks_nil
  | cons item items ih => exact (each item).append ih

/-- Text that completes no list and leaves neither parentheses nor quotations open. -/
structure Inert (words : String) : Prop where
  legible : Sql.Legible [.text words]
  walks : ∀ keyword names,
    (Place.within keyword names 0).Walks [.text words] [] (.within keyword names 0)

theorem inert_of_scan {words : String} {completed : List Token} {ending : Reading}
    (scanned : Reading.scan .between words.toList = (completed, ending))
    (closed : ending.isClosed = true)
    (kept : ∀ keyword names, (Place.within keyword names 0).run (completed ++ ending.left) =
      ([], .within keyword names 0)) : Inert words where
  legible := by
    refine Sql.legible_single ?_
    rw [Piece.ending, Piece.render, scanned, closed]
  walks := by
    intro keyword names
    have read : Sql.tokens [.text words] = completed ++ ending.left := by
      simp [Piece.tokens, Piece.render, tokens, Reading.tokens, scanned]
    rw [Place.Walks, read, kept]

/-- Pieces that make up an item with some leading names. -/
def Leads (keyword : String) (sql : Sql) (leading : List String) : Prop :=
  ∀ names, (Place.leading keyword names).Walks sql [] (.within keyword (names ++ leading) 0)

theorem walks_list {separator : List Char} {parts : List Sql} {leading : List (List String)}
    (separates : ∀ names, (Place.within keyword names 0).run (Reading.tokens .between separator) =
      ([], .leading keyword names))
    (items : List.Forall₂ (Leads keyword) parts leading) (names : List String) :
    (Place.leading keyword names).Walks
      (Sql.separated (String.ofList separator) parts ++ [.text "\n)"])
      [{ keyword, names := names ++ leading.flatten }] .outside := by
  unfold Sql.separated
  -- The end belongs to the list: without items a list is closed at its very beginning.
  induction items generalizing names with
  | nil =>
      rw [List.flatten_nil, List.append_nil]
      exact walks_text rfl
  | @cons part lead parts leads item items ih =>
      cases items with
      | nil =>
          rw [List.intercalate_singleton, List.flatten_singleton]
          exact (item names).on (walks_text rfl)
      | cons next items =>
          rw [List.intercalate_cons_cons, List.append_assoc, List.append_assoc,
            List.flatten_cons, ← List.append_assoc names]
          exact (item names).on ((walks_text (separates _)).on (ih _))

end Script

end SqlMapper
