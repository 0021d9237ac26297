import SqlGateway.Statement.Basic
import SqlGateway.Json.Basic

/-!
# Requests

A request to the table service says what to do with a table, which columns to return, and which
rows it is about.  It is built step by step from the bare table; each step sets one part or adds to
one list.
-/

namespace SqlGateway

/-- A row as exchanged with the table service: its cells in order, no column twice. -/
abbrev Row := List (String × Json)

/-- What a request does. -/
inductive Operation where
  | select
  | insert (rows : List Row)
  | update (record : Row)
  | delete

namespace Operation

/-- What kind of statement an operation comes from. -/
def kind : Operation → StatementKind
  | select => .select
  | insert _ => .insert
  | update _ => .update
  | delete => .delete

/-- Equality of operations, with that of cells. -/
def same : Operation → Operation → Bool
  | select, select => true
  | insert rows, insert rows' => sameList Json.sameFields rows rows'
  | update record, update record' => Json.sameFields record record'
  | delete, delete => true
  | _, _ => false

end Operation

/-- One condition on the rows of a request; a row has to meet them all. -/
inductive Filter where
  /-- The comparison holds. -/
  | condition (c : Comparison)
  /-- At least one of the comparisons holds. -/
  | anyOf (conditions : List Comparison)

/-- Equality of filters, with that of values. -/
def Filter.same : Filter → Filter → Bool
  | condition c, condition d => c.same d
  | anyOf cs, anyOf ds => sameList Comparison.same cs ds
  | _, _ => false

/-- A request to the table service. -/
structure Request where
  table : String
  operation : Operation
  /-- The columns to return.  A change without them returns nothing. -/
  select : Option String
  filters : List Filter
  order : List OrderKey
  limit : Option Nat
  offset : Option Nat

namespace Request

/-- The request for all of a table. -/
def ofTable (table : String) : Request :=
  { table, operation := .select, select := none, filters := [], order := [], limit := none,
    offset := none }

/-- Chooses the columns to return. -/
def returning (request : Request) (columns : String) : Request :=
  { request with select := some columns }

/-- Makes the request add rows. -/
def inserting (request : Request) (rows : List Row) : Request :=
  { request with operation := .insert rows }

/-- Makes the request set cells. -/
def updating (request : Request) (record : Row) : Request :=
  { request with operation := .update record }

/-- Makes the request remove rows. -/
def deleting (request : Request) : Request :=
  { request with operation := .delete }

/-- Adds a filter after those before it. -/
def filtered (request : Request) (filter : Filter) : Request :=
  { request with filters := request.filters ++ [filter] }

/-- Adds a comparison; membership always looks into a list. -/
def comparing (request : Request) (column : String) (op : Operator) (value : Value) : Request :=
  let operand := if op = .isIn then .list value.intoList else value
  request.filtered (.condition { column, op, value := operand })

/-- Adds a key to sort by; earlier keys take precedence. -/
def sortedBy (request : Request) (key : OrderKey) : Request :=
  { request with order := request.order ++ [key] }

/-- Returns at most `count` rows. -/
def limited (request : Request) (count : Nat) : Request :=
  { request with limit := some count }

/-- Skips `count` rows. -/
def skipping (request : Request) (count : Nat) : Request :=
  { request with offset := some count }

/-- Whether the answer carries rows. -/
def returnsRows (request : Request) : Bool :=
  match request.operation with
  | .select => true
  | _ => request.select.isSome

/-- Equality of requests, with that of values and cells. -/
def same (request request' : Request) : Bool :=
  request.table == request'.table && request.operation.same request'.operation &&
    request.select == request'.select && sameList Filter.same request.filters request'.filters &&
    request.order == request'.order && request.limit == request'.limit &&
    request.offset == request'.offset

end Request

end SqlGateway
