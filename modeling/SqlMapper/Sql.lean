import SqlMapper.Dialect

/-!
Statement text in pieces.

Text is put together from pieces that say what they are: words taken as they are, names to be
quoted, references to parameters, and literals. Only `Sql.render` knows how a dialect spells them.
-/

namespace SqlMapper

inductive Piece where
  | text (content : String)
  | name (identifier : String)
  | parameter (name : String)
  | literal (content : String)
deriving DecidableEq, Repr

abbrev Sql := List Piece

def apostrophe : Char := Char.ofNat 0x27

/-- The literal of a text: quotes inside are doubled. -/
def textLiteral (content : String) : String :=
  String.ofList ('N' :: apostrophe :: doubled apostrophe content.toList ++ [apostrophe])

def Piece.render (dialect : Dialect) : Piece → String
  | .text content => content
  | .name identifier => dialect.quote identifier
  | .parameter label => dialect.parameter label
  | .literal content => textLiteral content

namespace Sql

def render (dialect : Dialect) (sql : Sql) : String :=
  String.join (sql.map (Piece.render dialect))

def separated (separator : String) (parts : List Sql) : Sql :=
  List.intercalate [.text separator] parts

def parameters (sql : Sql) : List String :=
  sql.filterMap fun
    | .parameter name => some name
    | _ => none

@[simp]
theorem render_nil (dialect : Dialect) : render dialect [] = "" := rfl

@[simp]
theorem render_cons (dialect : Dialect) (piece : Piece) (rest : Sql) :
    render dialect (piece :: rest) = piece.render dialect ++ render dialect rest := by
  simp [render]

@[simp]
theorem render_append (dialect : Dialect) (left right : Sql) :
    render dialect (left ++ right) = render dialect left ++ render dialect right := by
  simp [render]

theorem render_separated (dialect : Dialect) (separator : String) (parts : List Sql) :
    (separated separator parts).render dialect =
      separator.intercalate (parts.map (render dialect)) := by
  unfold separated
  induction parts with
  | nil => simp
  | cons part others ih =>
      cases others with
      | nil => simp
      | cons next others =>
          rw [List.intercalate_cons_cons, render_append, render_append, ih]
          simp [Piece.render, String.intercalate_cons_cons]

@[simp]
theorem parameters_append (left right : Sql) :
    parameters (left ++ right) = parameters left ++ parameters right := by
  simp [parameters]

@[simp]
theorem parameters_nil : parameters [] = [] := rfl

@[simp]
theorem parameters_text (words : String) (rest : Sql) :
    parameters (.text words :: rest) = parameters rest := rfl

@[simp]
theorem parameters_name (identifier : String) (rest : Sql) :
    parameters (.name identifier :: rest) = parameters rest := rfl

@[simp]
theorem parameters_parameter (name : String) (rest : Sql) :
    parameters (.parameter name :: rest) = name :: parameters rest := rfl

@[simp]
theorem parameters_separated (separator : String) (parts : List Sql) :
    (separated separator parts).parameters = parts.flatMap parameters := by
  unfold separated
  induction parts with
  | nil => rfl
  | cons part others ih =>
      cases others with
      | nil => simp
      | cons next others =>
          rw [List.intercalate_cons_cons, parameters_append, parameters_append, ih]
          simp

end Sql

end SqlMapper
