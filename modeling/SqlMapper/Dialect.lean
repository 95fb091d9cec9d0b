/-!
How a database spells names and parameters.

A `Dialect` is a record of these choices; its defaults are those of standard SQL. A quoted name
doubles the closing delimiter inside, so that the name can be read back whatever it contains.
-/

namespace SqlMapper

structure Dialect where
  name : String
  openQuote : Char := '"'
  closeQuote : Char := '"'
  parameterMark : Char := '@'
  clauseSeparator : String := "\n"
deriving DecidableEq, Repr

def doubled (char : Char) (chars : List Char) : List Char :=
  chars.flatMap fun other => if other = char then [char, char] else [other]

namespace Dialect

def sqlServer : Dialect where
  name := "mssql"
  openQuote := '['
  closeQuote := ']'

def quote (dialect : Dialect) (name : String) : String :=
  String.ofList
    (dialect.openQuote :: doubled dialect.closeQuote name.toList ++ [dialect.closeQuote])

/-- A table reference: the quoted schema, a point and the quoted table. -/
def qualified (dialect : Dialect) (schema table : String) : String :=
  dialect.quote schema ++ "." ++ dialect.quote table

def parameter (dialect : Dialect) (name : String) : String :=
  String.singleton dialect.parameterMark ++ name

end Dialect

/-- The name under which a table is stored: points become underscores. -/
def storedName (name : String) : String :=
  String.ofList (name.toList.map fun char => if char = '.' then '_' else char)

end SqlMapper
