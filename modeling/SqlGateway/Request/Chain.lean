import SqlGateway.Request.FilterText
import SqlGateway.Json.Writer
import SqlGateway.Text.Quoted

/-!
# Requests as a chain of calls

The readable text of a request names its steps in order, such as
`from("users").select("id").eq("active", true).limit(10)`.
-/

namespace SqlGateway.Request

open Text (quoted)

/-- The step that says what the request does. -/
def operationCall : Operation → String
  | .select => ""
  | .insert rows => ".insert(" ++ Json.write (.array (rows.map .object)) ++ ")"
  | .update record => ".update(" ++ Json.write (.object record) ++ ")"
  | .delete => ".delete()"

/-- The step that chooses columns; a query without one chooses them all. -/
def selectCall (operation : Operation) (select : Option String) : String :=
  match operation, select with
  | _, some columns => ".select(" ++ quoted columns ++ ")"
  | .select, none => ".select(\"*\")"
  | _, none => ""

/-- The step that adds a filter. -/
def filterCall : Filter → String
  | .condition c =>
    "." ++ c.op.filterName ++ "(" ++ quoted c.column ++ ", " ++ c.value.operandText ++ ")"
  | .anyOf conditions => ".or(" ++ quoted (disjunctionText conditions) ++ ")"

/-- The step that adds a key to sort by. -/
def orderCall (key : OrderKey) : String :=
  ".order(" ++ quoted key.column ++ ", \x7b ascending: " ++
    (if key.direction = .ascending then "true" else "false") ++ " \x7d)"

/-- A step with a count, if there is one. -/
def countCall (name : String) : Option Nat → String
  | none => ""
  | some count => "." ++ name ++ "(" ++ toString count ++ ")"

/-- The text of a request. -/
def chainText (request : Request) : String :=
  "from(" ++ quoted request.table ++ ")" ++ operationCall request.operation ++
    selectCall request.operation request.select ++
    String.join (request.filters.map filterCall) ++ String.join (request.order.map orderCall) ++
    countCall "limit" request.limit ++ countCall "offset" request.offset

end SqlGateway.Request
