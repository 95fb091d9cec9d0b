import SqlMapper.SortedTable
import SqlMapper.Value

/-!
Rows as a database returns them: the value of each column, sorted by column name.
-/

namespace SqlMapper

abbrev Row := SortedTable Value

namespace Row

def int? (row : Row) (column : String) : Option Int64 :=
  (row.get? column).bind Value.asInt?

def text? (row : Row) (column : String) : Option String :=
  (row.get? column).bind Value.asText?

/-- A column as a truth value. A null column has none. -/
def bool? (row : Row) (column : String) : Option Bool :=
  (row.get? column).bind fun value => if value.isNull then none else some value.truthy

def toJson (row : Row) : Json :=
  .object (row.entries.map fun entry => (entry.1, entry.2.toJson))

end Row

end SqlMapper
