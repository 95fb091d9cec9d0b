import SqlMapper.Dialogue
import SqlMapper.Parameters
import SqlMapper.Row

/-!
What passes between the program and a database: calls, rows and rejections.
-/

namespace SqlMapper

structure Call where
  text : String
  parameters : List Parameter := []

/-- Why a database refused a call, and which statement of a batch it refused if that is known. -/
structure Rejection where
  message : String
  statement : Option Nat := none
deriving DecidableEq, Repr

abbrev Answer := Except Rejection (List Row)

def database : Interface where
  Request := Call
  Answer := fun _ => Answer

/-- A database that notes the text of each call, last one first, and has no rows. -/
def rehearsal : Server database (List String) :=
  fun (call : Call) noted => (.ok [], call.text :: noted)

/-- A database whose answers are given in advance. Once they run out it has no rows. -/
def scripted : Server database (List Answer) := fun _ answers =>
  match answers with
  | answer :: rest => (answer, rest)
  | [] => (.ok [], [])

def firstInt? (column : String) (rows : List Row) : Option Int64 :=
  rows.findSome? fun row => row.int? column

/-- The count that the rows report. No rows report zero. -/
def countOf (rows : List Row) : Int64 :=
  (firstInt? "cnt" rows).getD 0

end SqlMapper
