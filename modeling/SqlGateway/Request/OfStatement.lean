import SqlGateway.Identifier
import SqlGateway.Request.FilterText
import SqlGateway.Value.Json

/-!
# The request of a statement

A statement becomes a request if every name in it is a plain identifier and its `WHERE` clause is a
conjunction of comparisons and of disjunctions of comparisons.  A conjunction becomes a sequence of
filters, a disjunction one filter over its leaves, from left to right.
-/

namespace SqlGateway

/-! ### Conditions -/

/-- A comparison with its value in the shape that its operator expects: a list for membership, null
or a truth value for `IS`, and no list for anything else. -/
def Comparison.checked (c : Comparison) : Except Error Comparison := do
  checkIdentifier c.column
  match c.op, c.value with
  | .isIn, value => .ok { c with value := .list value.intoList }
  | .is, .null => .ok c
  | .is, .bool _ => .ok c
  | .is, value => .error (.value (.truthOperand value))
  | op, .list _ => .error (.value (.listOperand op c.column))
  | _, _ => .ok c

namespace Predicate

/-- The comparisons of a disjunction, from left to right. -/
def disjuncts : Predicate → Except Error (List Comparison)
  | compare c => return [← c.checked]
  | or left right => return (← left.disjuncts) ++ (← right.disjuncts)
  | and _ _ => .error (.unsupported .andInsideOr)

/-- The filters of a clause, from left to right. -/
def filters : Predicate → Except Error (List Filter)
  | compare c => return [.condition (← c.checked)]
  | and left right => return (← left.filters) ++ (← right.filters)
  | or left right => return [.anyOf (← (or left right).disjuncts)]

end Predicate

/-- Adds the filters of a clause to a request. -/
def Request.restricted (request : Request) (clause : Predicate) : Except Error Request := do
  return { request with filters := request.filters ++ (← clause.filters) }

/-- Adds the filters of an optional clause to a request. -/
def Request.restrictedBy (request : Request) : Option Predicate → Except Error Request
  | none => .ok request
  | some clause => request.restricted clause

/-! ### Statements -/

/-- The text of a select column. -/
def SelectColumn.requestText : SelectColumn → Except Error String
  | star => .ok "*"
  | named name label => do
    checkIdentifier name
    label.forM checkIdentifier
    return columnText name label

/-- The select list of a query; an empty one stands for all columns. -/
def selectText (columns : List SelectColumn) : Except Error String := do
  let texts ← columns.mapM SelectColumn.requestText
  return if texts.isEmpty then "*" else ",".intercalate texts

/-- The request of a query. -/
def SelectStatement.toRequest (s : SelectStatement) : Except Error Request := do
  checkIdentifier s.table
  let columns ← selectText s.columns
  let request ← ((Request.ofTable s.table).returning columns).restrictedBy s.filter
  s.order.forM fun key => checkIdentifier key.column
  return { request with order := s.order, limit := s.limit, offset := s.offset }

/-- A row with the given cells; a column given twice keeps its first place and takes its last
value. -/
def rowOf (cells : List (String × Value)) : Row :=
  cells.foldl (fun row cell => Json.setField cell.1 cell.2.toJson row) []

/-- The row of a tuple of values, one for each column. -/
def InsertStatement.row (columns : List String) (values : List Value) : Except Error Row :=
  if values.length = columns.length then .ok (rowOf (columns.zip values))
  else .error (.arity columns.length values.length)

/-- The request of an insertion, which returns the new rows. -/
def InsertStatement.toRequest (s : InsertStatement) : Except Error Request := do
  checkIdentifier s.table
  s.columns.forM checkIdentifier
  if s.rows.isEmpty then .error (.unsupported .insertWithoutRows)
  else
    let rows ← s.rows.mapM (InsertStatement.row s.columns)
    return ((Request.ofTable s.table).inserting rows).returning "*"

/-- The request of a change, which returns the changed rows. -/
def UpdateStatement.toRequest (s : UpdateStatement) : Except Error Request := do
  checkIdentifier s.table
  if s.assignments.isEmpty then .error (.unsupported .updateWithoutAssignments)
  else
    s.assignments.forM fun a => checkIdentifier a.column
    let record := rowOf (s.assignments.map fun a => (a.column, a.value))
    let request ← ((Request.ofTable s.table).updating record).restrictedBy s.filter
    return request.returning "*"

/-- The request of a removal, which returns nothing. -/
def DeleteStatement.toRequest (s : DeleteStatement) : Except Error Request := do
  checkIdentifier s.table
  (Request.ofTable s.table).deleting.restrictedBy s.filter

/-- The request of a statement. -/
def Statement.toRequest : Statement → Except Error Request
  | select s => s.toRequest
  | insert s => s.toRequest
  | update s => s.toRequest
  | delete s => s.toRequest

end SqlGateway
