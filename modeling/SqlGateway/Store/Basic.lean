import SqlGateway.Plan
import SqlGateway.Outcome
import SqlGateway.Store.Match
import SqlGateway.Store.Project

/-!
# A store of tables

Tables held in memory, and what a request does to them.  A request about a table that is not there
fails and changes nothing; any other request succeeds, unless it is a query whose rows cannot be
sorted.
-/

namespace SqlGateway

/-- Tables by name, no name twice, each with its rows in order. -/
structure Store where
  tables : List (String × List Row)

namespace Store

/-- The store without tables. -/
def empty : Store :=
  { tables := [] }

/-- The rows of a table. -/
def rows? (store : Store) (table : String) : Option (List Row) :=
  store.tables.lookup table

/-- The tables with the rows of one replaced. -/
def setTable (table : String) (rows : List Row) :
    List (String × List Row) → List (String × List Row)
  | [] => []
  | (name, old) :: rest =>
    if name = table then (name, rows) :: rest else (name, old) :: setTable table rows rest

/-- Replaces the rows of a table that is there. -/
def setRows (store : Store) (table : String) (rows : List Row) : Store :=
  { tables := setTable table rows store.tables }

/-- Adds an empty table unless there is one of that name. -/
def createTable (store : Store) (table : String) : Store :=
  match store.rows? table with
  | some _ => store
  | none => { tables := store.tables ++ [(table, [])] }

/-- The tables in the order of their names. -/
def sortedTables (store : Store) : List (String × List Row) :=
  store.tables.mergeSort fun a b => compare a.1 b.1 != .gt

/-! ### Requests -/

/-- The failure of a request about a table that is not there. -/
def missing (table : String) : Failure :=
  { message := "relation \"" ++ table ++ "\" does not exist", status := some 404 }

/-- The rows of a query: those that pass the filters, sorted, then cut by offset and limit. -/
def selected? (request : Request) (rows : List Row) : Option (List Row) :=
  (sorted? request.order (rows.filter (passesAll request.filters))).map fun found =>
    let behind := found.drop (request.offset.getD 0)
    match request.limit with
    | none => behind
    | some count => behind.take count

/-- The rows of a table after an operation. -/
def changed (request : Request) (rows : List Row) : List Row :=
  match request.operation with
  | .select => rows
  | .insert added => rows ++ added
  | .update record =>
    rows.map fun row => if passesAll request.filters row then setCells row record else row
  | .delete => rows.filter fun row => !passesAll request.filters row

/-- The rows that an operation is about: those found, added, changed or removed.  There are none to
speak of if the sort of a query gives up. -/
def concerned? (request : Request) (rows : List Row) : Option (List Row) :=
  match request.operation with
  | .select => selected? request rows
  | .insert added => some added
  | .update record =>
    some ((rows.filter (passesAll request.filters)).map fun row => setCells row record)
  | .delete => some (rows.filter (passesAll request.filters))

/-- The outcome of a request that was about the given rows.  A query returns all columns unless it
chooses some; a change returns rows only if it chooses columns. -/
def report (request : Request) (rows : List Row) : Outcome :=
  match request.operation, request.select with
  | .select, columns => .found (rows.map (project (columns.getD "*")))
  | _, some columns => .found (rows.map (project columns))
  | _, none => .done

/-- Executes a request.  There is no outcome if the sort of a query gives up. -/
def execute (request : Request) (store : Store) : Option Outcome × Store :=
  match store.rows? request.table with
  | none => (some (.failed (missing request.table)), store)
  | some rows =>
    ((concerned? request rows).map (report request),
      store.setRows request.table (changed request rows))

/-- Answers a text, with the tables that may be used.  There is no outcome if a query is planned
whose sort gives up. -/
def answer (allowed : Option (List String)) (sql : String) : StateM Store (Option Outcome) :=
  (answerSql allowed (fun request => OptionT.mk (execute request : StateM Store (Option Outcome)))
    sql).run

end Store

end SqlGateway
