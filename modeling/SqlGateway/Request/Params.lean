import SqlGateway.Request.FilterText

/-!
# Request parameters

The parameters that a request is sent with, in order: the columns, one entry per filter, the sort
keys, and the counts.
-/

namespace SqlGateway.Request

/-- The parameter of a filter. -/
def filterParam : Filter → String × String
  | .condition c => (c.column, c.op.filterName ++ "." ++ c.value.operandText)
  | .anyOf conditions => ("or", "(" ++ disjunctionText conditions ++ ")")

/-- A sort key with its direction. -/
def orderText (key : OrderKey) : String :=
  match key.direction with
  | .ascending => key.column ++ ".asc"
  | .descending => key.column ++ ".desc"

/-- The parameter of the sort keys, if there are any. -/
def orderParam (order : List OrderKey) : List (String × String) :=
  if order.isEmpty then [] else [("order", ",".intercalate (order.map orderText))]

/-- A parameter with an optional value. -/
def optionalParam (name : String) (value : Option String) : List (String × String) :=
  value.toList.map fun text => (name, text)

/-- The parameters of a request. -/
def params (request : Request) : List (String × String) :=
  optionalParam "select" request.select ++ request.filters.map filterParam ++
    orderParam request.order ++ optionalParam "limit" (request.limit.map toString) ++
    optionalParam "offset" (request.offset.map toString)

end SqlGateway.Request
