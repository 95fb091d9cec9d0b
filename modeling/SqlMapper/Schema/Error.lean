import SqlMapper.CompileError
import SqlMapper.Database
import SqlMapper.FileTree

/-!
Why work on a schema failed.
-/

namespace SqlMapper.Schema

inductive CatalogFault where
  | missing (column : String)
  | position
deriving DecidableEq, Repr

def CatalogFault.message : CatalogFault → String
  | .missing column => "catalog row is missing '" ++ column ++ "'"
  | .position => "catalog row has no usable 'seq_in_index'"

inductive SchemaError where
  | declaration (error : CompileError)
  | execution (table text : String) (rejection : Rejection)
  | introspection (table : String) (fault : CatalogFault)
  | unreadable (path : String) (reason : Unreadable)
  | malformed

namespace SchemaError

def message : SchemaError → String
  | .declaration error => "Compile error: " ++ error.message
  | .execution table text rejection =>
    "Execution failed for table '" ++ table ++ "': " ++ rejection.message ++ "\n" ++ text
  | .introspection table fault =>
    "Introspection failed for table '" ++ table ++ "': " ++ fault.message
  | .unreadable path reason => "IO error reading '" ++ path ++ "': " ++ reason.message
  | .malformed => "Serialization error"

def cause? : SchemaError → Option String
  | .declaration error => some error.message
  | .execution _ _ rejection => some rejection.message
  | .unreadable _ reason => some reason.message
  | .introspection _ _ | .malformed => none

end SchemaError

end SqlMapper.Schema
