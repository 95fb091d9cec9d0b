/-!
Files and the paths that lead to them.

A path is followed step by step, from the root if it begins with a slash and else from the home
folder. An empty step and `.` stay where they are, `..` goes up, and every step has to start from a
folder.
-/

namespace SqlMapper

inductive Unreadable where
  | missing
  | denied
  | throughFile
  | folder
  | nameTooLong
  | other (words : String)
deriving DecidableEq, Repr

def Unreadable.message : Unreadable → String
  | .missing => "No such file or directory (os error 2)"
  | .denied => "Permission denied (os error 13)"
  | .throughFile => "Not a directory (os error 20)"
  | .folder => "Is a directory (os error 21)"
  | .nameTooLong => "File name too long (os error 36)"
  | .other words => words

/-- Files under the names that lead to them from the root, and the folder where paths begin. -/
structure FileTree where
  home : List String
  files : List (List String × String)
deriving Repr

namespace FileTree

inductive Entry where
  | file (text : String)
  | folder
deriving DecidableEq, Repr

/-- What the names lead to. The home folder exists, and every folder that it or a file lies in. -/
def entry? (tree : FileTree) (names : List String) : Option Entry :=
  match tree.files.lookup names with
  | some text => some (.file text)
  | none =>
    if (tree.home :: tree.files.map Prod.fst).any names.isPrefixOf then some .folder else none

def nameLimit : Nat := 255

def pathLimit : Nat := 4095

def steps (path : String) : List String :=
  (path.toList.splitOnP (· = '/')).map String.ofList

def follow (tree : FileTree) (names : List String) : List String → Except Unreadable (List String)
  | [] => .ok names
  | step :: steps =>
    match tree.entry? names with
    | none => .error .missing
    | some (.file _) => .error .throughFile
    | some .folder =>
      if step = "" ∨ step = "." then tree.follow names steps
      else if step = ".." then tree.follow names.dropLast steps
      else if nameLimit < step.utf8ByteSize then .error .nameTooLong
      else tree.follow (names ++ [step]) steps

def read (tree : FileTree) (path : String) : Except Unreadable String := do
  if path.isEmpty then throw .missing
  if pathLimit < path.utf8ByteSize then throw .nameTooLong
  let start := if path.toList.head? = some '/' then [] else tree.home
  match tree.entry? (← tree.follow start (steps path)) with
  | some (.file text) => return text
  | some .folder => throw .folder
  | none => throw .missing

end FileTree

end SqlMapper
