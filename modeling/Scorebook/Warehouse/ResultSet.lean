import Scorebook.Json.Basic
import Scorebook.Query.Param
import Scorebook.Warehouse.Failure

/-!
# Results of queries

The rows that a warehouse returns, each with its cells in the order of the columns.
-/

namespace Scorebook

/-- The rows that a query returned. -/
structure ResultSet where
  /-- The names of the columns. -/
  columns : List String
  /-- The cells, row by row. -/
  rows : List (List Json)
  /-- The number of rows that the warehouse reports. -/
  rowCount : Nat
  deriving Repr, BEq

namespace ResultSet

/-- The result with the number of its rows. -/
def ofRows (columns : List String) (rows : List (List Json)) : ResultSet :=
  ⟨columns, rows, rows.length⟩

/-- Whether there is no row. -/
def isEmpty (result : ResultSet) : Bool := result.rows.isEmpty

end ResultSet

/-- What a warehouse makes of a query. -/
abbrev Execution := Except WarehouseError ResultSet

end Scorebook
