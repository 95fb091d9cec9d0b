import SqlMapper.Model.Direction
import SqlMapper.Text.Blank

/-!
Indexes over the fields of a model.

An index without a name of its own gets one made of its fields, its kind and the direction of its
first column. An index column is written as a field name, optionally followed by a direction.
-/

namespace SqlMapper

inductive IndexKind where
  | clustered
  | nonclustered
deriving DecidableEq, Repr, Inhabited

def IndexKind.keyword : IndexKind → String
  | .clustered => "CLUSTERED"
  | .nonclustered => "NONCLUSTERED"

structure IndexColumn where
  field : String
  direction : Direction
deriving DecidableEq, Repr

namespace IndexColumn

def ofText (text : String) : Except CompileError IndexColumn :=
  match Text.words text with
  | [] => .error (.invalidOrder text)
  | [field] => .ok { field, direction := .ascending }
  | field :: word :: rest => do
    let direction ← Direction.ofWord word
    if rest.isEmpty then .ok { field, direction } else .error (.invalidOrder text)

/-- Writes the field name, and the direction if it is descending. -/
def toText (column : IndexColumn) : String :=
  match column.direction with
  | .ascending => column.field
  | .descending => column.field ++ " DESC"

end IndexColumn

structure Index where
  columns : List IndexColumn
  unique : Bool := false
  name : Option String := none
  kind : IndexKind := .nonclustered
deriving DecidableEq, Repr

namespace Index

def fields (index : Index) : List String :=
  index.columns.map (·.field)

/-- The direction that a made-up name shows: that of the first column. -/
def leadingDirection (index : Index) : Direction :=
  (index.columns.head?.map (·.direction)).getD .ascending

def madeUpName (index : Index) : String :=
  String.join (index.columns.map fun column => column.field ++ "_") ++
    index.kind.keyword ++ "_" ++ index.leadingDirection.keyword ++ "_idx"

/-- The name of the index: its own, or else the one made up for it. -/
def resolvedName (index : Index) : String :=
  index.name.getD index.madeUpName

end Index

end SqlMapper
