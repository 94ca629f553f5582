import Scorebook.Catalogue.Label
import Scorebook.Warehouse.ResultSet

/-!
# Answers as tables

A result as it is shown: every row as an object under the names of the columns, every column with a
label, and the floating-point cells of decimal columns rounded to three places. All other cells stay
as they are.
-/

namespace Scorebook

/-- A column with its label. -/
structure ColumnLabel where
  /-- The name of the column. -/
  key : String
  /-- What is shown for it. -/
  label : String
  deriving DecidableEq, Repr

/-- A result as it is shown. -/
structure AnswerTable where
  /-- The number of rows that the warehouse reports. -/
  rowCount : Nat
  /-- The rows, with their cells by the names of the columns. -/
  rows : List (Dict Json)
  /-- The columns in the order of the result. -/
  columns : List ColumnLabel
  /-- The columns whose floating-point cells are rounded. -/
  decimalColumns : List String
  deriving Repr

/-- A cell rounded to three places if it is a floating-point number; `null` where the rounding
leaves the finite numbers. -/
def Json.rounded : Json → Json
  | .float x => ((x.toThousandths.map Json.finite)).getD .null
  | other => other

/-- A cell of a column as it is shown. -/
def Catalogue.shownCell (c : Catalogue) (column : String) (cell : Json) : Json :=
  if c.decimalColumns.contains column then cell.rounded else cell

/-- A row by the names of the columns; of two columns with the same name the later one counts. Cells
past the columns, and columns past the cells, are left out. -/
def Catalogue.shownRow (c : Catalogue) (columns : List String) (row : List Json) : Dict Json :=
  Dict.ofList ((columns.zip row).map fun (column, cell) => (column, c.shownCell column cell))

/-- A result as it is shown. -/
def Catalogue.table (c : Catalogue) (result : ResultSet) : AnswerTable where
  rowCount := result.rowCount
  rows := result.rows.map (c.shownRow result.columns)
  columns := result.columns.map fun column => ⟨column, c.labelFor column⟩
  decimalColumns := result.columns.filter c.decimalColumns.contains

namespace AnswerTable

/-- The rows in JSON. -/
def rowsJson (table : AnswerTable) : Json := .arr (table.rows.map fun row => .obj row.entries)

/-- The fields of the JSON form. -/
def fields (table : AnswerTable) : List (String × Json) :=
  [("row_count", .int table.rowCount),
   ("rows", table.rowsJson),
   ("columns", .arr (table.columns.map fun column =>
     .obj [("key", .str column.key), ("label", .str column.label)])),
   ("decimal_columns", Json.strings table.decimalColumns)]

/-- The JSON form. -/
def toJson (table : AnswerTable) : Json := .obj table.fields

end AnswerTable

end Scorebook
