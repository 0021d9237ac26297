import SqlGateway.Store.Order
import SqlGateway.Text.Blank
import SqlGateway.Text.Split

/-!
# Choosing columns

The columns to return are named in a text: items with commas between them, each a star for every
column, the name of a column, or a label and a name with a colon between them.
-/

namespace SqlGateway.Store

/-- An item of a column text. -/
inductive ColumnItem where
  | star
  | column (label name : String)
  deriving DecidableEq, Repr

/-- Reads an item. -/
def ColumnItem.ofChars (text : List Char) : ColumnItem :=
  if text = ['*'] then .star
  else
    match Text.splitOnce? ':' text with
    | some (label, name) => .column (String.ofList label) (String.ofList name)
    | none => .column (String.ofList text) (String.ofList text)

/-- The items of a column text; blanks around an item do not count, nor do empty items. -/
def columnItems (columns : String) : List ColumnItem :=
  (((Text.splitAt ',' columns.toList).map Text.trim).filter fun text => !text.isEmpty).map
    ColumnItem.ofChars

/-- Sets the cells of a row, each in its old place if it has one. -/
def setCells (row record : Row) : Row :=
  record.foldl (fun cells (column, value) => Json.setField column value cells) row

/-- Adds what an item chooses from a row to the cells chosen before. -/
def addItem (row cells : Row) : ColumnItem → Row
  | .star => setCells cells row
  | .column label name => Json.setField label (cell row name) cells

/-- The chosen columns of a row. -/
def project (columns : String) (row : Row) : Row :=
  (columnItems columns).foldl (addItem row) []

end SqlGateway.Store
