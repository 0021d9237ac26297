import SqlGateway.Json.Record
import SqlGateway.Statement.Basic
import SqlGateway.Value.Json
import SqlGateway.Json.Writer
import SqlGateway.Json.Reader

/-!
# Statements in JSON

The stored form of a statement.  A value is stored as plain JSON, so its reader tells the kinds
apart by their JSON form; an object is no value.
-/

namespace SqlGateway

open Json

/-! ### Values -/

mutual

/-- The value stored as the given JSON. -/
def Value.ofStored? : Json → Option Value
  | .null => some .null
  | .bool b => some (.bool b)
  | .number n => some (Value.ofJsonNumber n)
  | .string s => some (.string s)
  | .array items => (Value.ofStoredItems? items).map .list
  | .object _ => none

/-- The values stored as the items of an array. -/
def Value.ofStoredItems? : List Json → Option (List Value)
  | [] => some []
  | item :: rest => do
    let value ← Value.ofStored? item
    let values ← Value.ofStoredItems? rest
    return value :: values

end

/-! ### Conditions -/

namespace Operator

/-- The stored name of an operator. -/
def storedName : Operator → String
  | eq => "Eq"
  | neq => "Neq"
  | gt => "Gt"
  | gte => "Gte"
  | lt => "Lt"
  | lte => "Lte"
  | like => "Like"
  | ilike => "ILike"
  | isIn => "In"
  | is => "Is"

/-- The operator with a stored name. -/
def ofStored? (value : Json) : Option Operator :=
  match asVariant? value with
  | some (name, .null) => all.find? fun op => op.storedName == name
  | _ => none

end Operator

namespace Comparison

/-- The stored form of a comparison. -/
def toStored (c : Comparison) : Json :=
  .object [("column", .string c.column), ("op", .string c.op.storedName),
    ("value", c.value.toJson)]

/-- The comparison with a stored form. -/
def ofStored? (value : Json) : Option Comparison := do
  match ← asRecord? ["column", "op", "value"] 0 value with
  | [column, op, operand] =>
    return {
      column := ← required? asString? column
      op := ← required? Operator.ofStored? op
      value := ← required? Value.ofStored? operand
    }
  | _ => none

end Comparison

namespace Predicate

/-- The stored form of a clause. -/
def toStored : Predicate → Json
  | compare c => .object [("Compare", c.toStored)]
  | and left right => .object [("And", .array [left.toStored, right.toStored])]
  | or left right => .object [("Or", .array [left.toStored, right.toStored])]

/-- The clause with a stored form. -/
def ofStored? : Json → Option Predicate
  | .object [(name, .array [left, right])] =>
    if name = "And" then return and (← ofStored? left) (← ofStored? right)
    else if name = "Or" then return or (← ofStored? left) (← ofStored? right)
    else none
  | .object [(name, data)] =>
    if name = "Compare" then (Comparison.ofStored? data).map compare else none
  | _ => none

end Predicate

/-! ### Columns and order -/

namespace SelectColumn

/-- The stored form of a select column. -/
def toStored : SelectColumn → Json
  | star => .string "Star"
  | named name label =>
    .object [("Named", .object [("name", .string name), ("alias", ofOption .string label)])]

/-- The select column with a stored form. -/
def ofStored? (value : Json) : Option SelectColumn := do
  match ← asVariant? value with
  | ("Star", .null) => return star
  | ("Named", data) =>
    match ← asRecord? ["name", "alias"] 0 data with
    | [name, label] =>
      return named (← required? asString? name) (← optional? asString? label)
    | _ => none
  | _ => none

end SelectColumn

namespace Direction

/-- The stored name of a direction. -/
def storedName : Direction → String
  | ascending => "Asc"
  | descending => "Desc"

/-- The direction with a stored name. -/
def ofStored? (value : Json) : Option Direction :=
  match asVariant? value with
  | some ("Asc", .null) => some ascending
  | some ("Desc", .null) => some descending
  | _ => none

end Direction

namespace OrderKey

/-- The stored form of a sort key. -/
def toStored (key : OrderKey) : Json :=
  .object [("column", .string key.column), ("order", .string key.direction.storedName)]

/-- The sort key with a stored form. -/
def ofStored? (value : Json) : Option OrderKey := do
  match ← asRecord? ["column", "order"] 0 value with
  | [column, direction] =>
    return {
      column := ← required? asString? column
      direction := ← required? Direction.ofStored? direction
    }
  | _ => none

end OrderKey

/-! ### Statements -/

/-- A count of 64 bits. -/
def countOfStored? : Json → Option Nat :=
  asCount? Decimal.maxUInt64

namespace SelectStatement

/-- The stored form of a query. -/
def toStored (s : SelectStatement) : Json :=
  .object [("table", .string s.table), ("columns", .array (s.columns.map SelectColumn.toStored)),
    ("filter", ofOption Predicate.toStored s.filter),
    ("order_by", .array (s.order.map OrderKey.toStored)), ("limit", ofOption ofCount s.limit),
    ("offset", ofOption ofCount s.offset)]

/-- The query with a stored form. -/
def ofStored? (value : Json) : Option SelectStatement := do
  match ← asRecord? ["table", "columns", "filter", "order_by", "limit", "offset"] 0 value with
  | [table, columns, filter, order, limit, offset] =>
    return {
      table := ← required? asString? table
      columns := ← required? (asList? SelectColumn.ofStored?) columns
      filter := ← optional? Predicate.ofStored? filter
      order := ← required? (asList? OrderKey.ofStored?) order
      limit := ← optional? countOfStored? limit
      offset := ← optional? countOfStored? offset
    }
  | _ => none

end SelectStatement

namespace InsertStatement

/-- The stored form of an insertion. -/
def toStored (s : InsertStatement) : Json :=
  .object [("table", .string s.table), ("columns", .array (s.columns.map .string)),
    ("rows", .array (s.rows.map fun row => .array (row.map Value.toJson)))]

/-- The insertion with a stored form. -/
def ofStored? (value : Json) : Option InsertStatement := do
  match ← asRecord? ["table", "columns", "rows"] 0 value with
  | [table, columns, rows] =>
    return {
      table := ← required? asString? table
      columns := ← required? (asList? asString?) columns
      rows := ← required? (asList? (asList? Value.ofStored?)) rows
    }
  | _ => none

end InsertStatement

namespace Assignment

/-- The stored form of an assignment. -/
def toStored (a : Assignment) : Json :=
  .object [("column", .string a.column), ("value", a.value.toJson)]

/-- The assignment with a stored form. -/
def ofStored? (value : Json) : Option Assignment := do
  match ← asRecord? ["column", "value"] 0 value with
  | [column, operand] =>
    return {
      column := ← required? asString? column
      value := ← required? Value.ofStored? operand
    }
  | _ => none

end Assignment

namespace UpdateStatement

/-- The stored form of a change. -/
def toStored (s : UpdateStatement) : Json :=
  .object [("table", .string s.table),
    ("assignments", .array (s.assignments.map Assignment.toStored)),
    ("filter", ofOption Predicate.toStored s.filter)]

/-- The change with a stored form. -/
def ofStored? (value : Json) : Option UpdateStatement := do
  match ← asRecord? ["table", "assignments", "filter"] 0 value with
  | [table, assignments, filter] =>
    return {
      table := ← required? asString? table
      assignments := ← required? (asList? Assignment.ofStored?) assignments
      filter := ← optional? Predicate.ofStored? filter
    }
  | _ => none

end UpdateStatement

namespace DeleteStatement

/-- The stored form of a removal. -/
def toStored (s : DeleteStatement) : Json :=
  .object [("table", .string s.table), ("filter", ofOption Predicate.toStored s.filter)]

/-- The removal with a stored form. -/
def ofStored? (value : Json) : Option DeleteStatement := do
  match ← asRecord? ["table", "filter"] 0 value with
  | [table, filter] =>
    return {
      table := ← required? asString? table
      filter := ← optional? Predicate.ofStored? filter
    }
  | _ => none

end DeleteStatement

namespace Statement

/-- The stored form of a statement. -/
def toStored : Statement → Json
  | select s => .object [("Select", s.toStored)]
  | insert s => .object [("Insert", s.toStored)]
  | update s => .object [("Update", s.toStored)]
  | delete s => .object [("Delete", s.toStored)]

/-- The statement with a stored form. -/
def ofStored? (value : Json) : Option Statement := do
  match ← asVariant? value with
  | ("Select", data) => (SelectStatement.ofStored? data).map select
  | ("Insert", data) => (InsertStatement.ofStored? data).map insert
  | ("Update", data) => (UpdateStatement.ofStored? data).map update
  | ("Delete", data) => (DeleteStatement.ofStored? data).map delete
  | _ => none

/-- The stored text of a statement. -/
def storedText (s : Statement) : String :=
  Json.write s.toStored

/-- The statement with a stored text. -/
def ofStoredText? (text : String) : Option Statement := do
  ofStored? (← Json.read? text)

end Statement

/-- The value with a stored text. -/
def Value.ofStoredText? (text : String) : Option Value := do
  Value.ofStored? (← Json.read? text)

end SqlGateway
