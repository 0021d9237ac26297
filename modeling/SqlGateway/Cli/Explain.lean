import SqlGateway.Cli.Table
import SqlGateway.Plan
import SqlGateway.Request.Chain
import SqlGateway.Request.Params

/-!
# Explanations

What a statement was taken for and what request it becomes, and a reference of the operators.
-/

namespace SqlGateway.Cli

/-- A line about the condition of a statement, if it has one. -/
def filterLines (filter : Option Predicate) : List String :=
  filter.toList.map fun clause => "  Where: " ++ clause.sqlText

/-- A line about a count, if it is given. -/
def countLines (name : String) (count : Option Nat) : List String :=
  count.toList.map fun n => "  " ++ name ++ ": " ++ toString n

/-- A line about a sort key. -/
def orderLine (key : OrderKey) : String :=
  "  Order: " ++ key.column ++
    (match key.direction with
    | .ascending => " ↑"
    | .descending => " ↓")

/-- The lines about the parts of a statement. -/
def statementLines : Statement → List String
  | .select s =>
    "  Columns:" :: (s.columns.map fun column => "    • " ++ column.sqlText) ++
      filterLines s.filter ++ s.order.map orderLine ++ countLines "Limit" s.limit ++
      countLines "Offset" s.offset
  | .insert s =>
    ("  Columns: " ++ ", ".intercalate s.columns) ::
      s.rows.map fun row => "    (" ++ ", ".intercalate (row.map Value.sqlText) ++ ")"
  | .update s =>
    "  Set:" :: (s.assignments.map fun a => "    " ++ a.column ++ " = " ++ a.value.sqlText) ++
      filterLines s.filter
  | .delete s => filterLines s.filter

/-- The lines about the parameters of a request, if it has some. -/
def paramLines (request : Request) : List String :=
  match request.params with
  | [] => []
  | params => ["", "PostgREST parameters:"] ++ params.map fun (key, value) =>
      "  " ++ key ++ "=" ++ value

/-- The lines that explain a plan. -/
def planLines (plan : Plan) : List String :=
  ["Parsed Structure:", "  Route: " ++ plan.route.name, "  Kind: " ++ plan.statement.kind.text,
    "  Table: " ++ plan.statement.table] ++ statementLines plan.statement ++
    ["", "Table API call:", "  " ++ plan.request.chainText] ++ paramLines plan.request

/-- The operators with their filters and an example of each. -/
def operatorRows : List (String × String × String × String) :=
  [("=", "eq", "id = 1", "id=eq.1"),
    ("!= / <>", "neq", "status <> 'done'", "status=neq.done"),
    (">", "gt", "age > 18", "age=gt.18"),
    (">=", "gte", "age >= 18", "age=gte.18"),
    ("<", "lt", "price < 10", "price=lt.10"),
    ("<=", "lte", "price <= 10", "price=lte.10"),
    ("LIKE", "like", "name LIKE 'A%'", "name=like.A%"),
    ("ILIKE", "ilike", "name ILIKE 'a%'", "name=ilike.a%"),
    ("IN", "in", "id IN (1, 2)", "id=in.(1,2)"),
    ("IS", "is", "deleted_at IS NULL", "deleted_at=is.null"),
    ("OR", "or", "a = 1 OR b = 2", "or=(a.eq.1,b.eq.2)")]

/-- A line of the reference. -/
def operatorLine (row : String × String × String × String) : String :=
  let (symbol, filter, sample, param) := row
  padded 10 symbol ++ " " ++ padded 8 filter ++ " " ++ padded 22 sample ++ " " ++ param

/-- The lines of the reference. -/
def operatorLines : List String :=
  ["sqlrest Operator Reference", "", operatorLine ("SQL", "Filter", "Example", "PostgREST"),
    String.ofList (List.replicate 70 '─')] ++ operatorRows.map operatorLine

end SqlGateway.Cli
