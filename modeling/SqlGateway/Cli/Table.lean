import SqlGateway.Json.Writer
import SqlGateway.Request.Basic

/-!
# Tables of text

Rows are shown as a table with one column for each key that any row has, in the order in which the
keys are met.  Widths count characters.
-/

namespace SqlGateway.Cli

/-- A text with blanks behind it up to a width. -/
def padded (width : Nat) (text : String) : String :=
  text ++ String.ofList (List.replicate (width - text.length) ' ')

/-- How a cell is shown. -/
def cellText : Json → String
  | .null => "NULL"
  | .string s => s
  | value => value.write

/-- The columns of rows, each once. -/
def columnsOf (rows : List Row) : List String :=
  (rows.flatMap fun row => row.map Prod.fst).foldl
    (fun columns key => if columns.contains key then columns else columns ++ [key]) []

/-- How the cell of a row in a column is shown; nothing if the row has no such column. -/
def shownCell (row : Row) (column : String) : String :=
  ((Json.getField? column row).map cellText).getD ""

/-- The width of a column. -/
def widthOf (rows : List Row) (column : String) : Nat :=
  (rows.map fun row => (shownCell row column).length).foldl max column.length

/-- The lines of a table. -/
def tableLines (rows : List Row) : List String :=
  let columns := (columnsOf rows).map fun column => (column, widthOf rows column)
  let heading := columns.map fun (column, width) => padded width column
  let rule := columns.map fun (_, width) => String.ofList (List.replicate width '─')
  let line (row : Row) : String :=
    " │ ".intercalate (columns.map fun (column, width) => padded width (shownCell row column))
  [" │ ".intercalate heading, "─┼─".intercalate rule] ++ rows.map line ++
    ["", toString rows.length ++ " row(s) returned"]

end SqlGateway.Cli
