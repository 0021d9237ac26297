import SqlGateway.Request.Basic
import SqlGateway.Statement.Codec

/-!
# Requests in JSON

The stored form of a request.
-/

namespace SqlGateway

open Json

namespace Operation

/-- The stored form of an operation. -/
def toStored : Operation → Json
  | select => .string "Select"
  | insert rows => .object [("Insert", .array (rows.map .object))]
  | update record => .object [("Update", .object record)]
  | delete => .string "Delete"

/-- The operation with a stored form. -/
def ofStored? (value : Json) : Option Operation := do
  match ← asVariant? value with
  | ("Select", .null) => return select
  | ("Insert", data) => (asList? asRow? data).map insert
  | ("Update", data) => (asRow? data).map update
  | ("Delete", .null) => return delete
  | _ => none

end Operation

namespace Filter

/-- The stored form of a filter. -/
def toStored : Filter → Json
  | condition c => .object [("Condition", c.toStored)]
  | anyOf conditions =>
    .object [("Or", .object [("conditions", .array (conditions.map Comparison.toStored))])]

/-- The filter with a stored form. -/
def ofStored? (value : Json) : Option Filter := do
  match ← asVariant? value with
  | ("Condition", data) => (Comparison.ofStored? data).map condition
  | ("Or", data) =>
    match ← asRecord? ["conditions"] 0 data with
    | [conditions] => (required? (asList? Comparison.ofStored?) conditions).map anyOf
    | _ => none
  | _ => none

end Filter

namespace Request

/-- The stored form of a request. -/
def toStored (request : Request) : Json :=
  .object [("table", .string request.table), ("operation", request.operation.toStored),
    ("select", ofOption .string request.select),
    ("filters", .array (request.filters.map Filter.toStored)),
    ("order", .array (request.order.map OrderKey.toStored)),
    ("limit", ofOption ofCount request.limit), ("offset", ofOption ofCount request.offset)]

/-- The request with a stored form. -/
def ofStored? (value : Json) : Option Request := do
  match ← asRecord? ["table", "operation", "select", "filters", "order", "limit", "offset"] 0
      value with
  | [table, operation, select, filters, order, limit, offset] =>
    return {
      table := ← required? asString? table
      operation := ← required? Operation.ofStored? operation
      select := ← optional? asString? select
      filters := ← required? (asList? Filter.ofStored?) filters
      order := ← required? (asList? OrderKey.ofStored?) order
      limit := ← optional? countOfStored? limit
      offset := ← optional? countOfStored? offset
    }
  | _ => none

/-- The stored text of a request. -/
def storedText (request : Request) : String :=
  Json.write request.toStored

/-- The request with a stored text. -/
def ofStoredText? (text : String) : Option Request := do
  ofStored? (← Json.read? text)

end Request

end SqlGateway
