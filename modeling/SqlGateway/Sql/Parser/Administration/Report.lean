import SqlGateway.Sql.Parser.Property

/-!
# Reports

Statements that tell about things: what there is, how a thing was defined, and how a statement would
be carried out.
-/

namespace SqlGateway.Sql.Parser

variable (nested : Nested)

/-! ### Lists of things -/

/-- What a report is limited to. -/
def reportFilter : Parser Unit := do
  match ← oneOf? ["LIKE", "ILIKE"] with
  | some _ => discard quotedOrFreeWord
  | none =>
    if ← keyword? "WHERE" then discard nested.fullExpr
    else discard (attempt? quotedOrFreeWord)

/-- Whether a keyword comes next behind which a report names no place. -/
def nextEndsPlace : Parser Bool := do
  return (dropKeywords? ["STARTS", "WITH"] (← get)).isSome || (← nextIsKeyword "LIMIT")

/-- Where the things of a report are looked for, if it is said. -/
def reportPlace : Parser Unit := do
  match ← oneOf? ["FROM", "IN"] with
  | none => return
  | some _ =>
    match ← oneOf? ["ACCOUNT", "DATABASE", "SCHEMA", "TABLE", "VIEW"] with
    | some kind =>
      if ["DATABASE", "SCHEMA"].contains kind && (← nextEndsPlace) then return
      else discard (attempt? objectName)
    | none =>
      discard objectName
      match ← oneOf? ["FROM", "IN"] with
      | some _ => discard ident
      | none => return

/-- What things a report is about, as far as it is said. -/
def reportChoice : Parser Unit := do
  reportPlace
  reportFilter nested
  discard (clause? ["STARTS", "WITH"] literal)
  discard (clause? ["LIMIT"] (limitValue nested))
  discard (clause? ["FROM"] literal)

/-- Skips the words up to a sign of equality or the end of the statement. -/
def skipWords : Parser Unit := do
  set ((← get).dropWhile fun token => token != .symbol "=" && token != .symbol ";")

/-- A report on other things than tables and their parts. -/
def otherReport : Parser Unit := do
  if ← keyword? "CREATE" then
    discard (oneOf ["TABLE", "TRIGGER", "FUNCTION", "PROCEDURE", "EVENT", "VIEW"])
    discard objectName
  else if ← anyOfKeywords? [["COLLATION"], ["VARIABLES"], ["STATUS"]] then reportFilter nested
  else if ← anyOfKeywords? [["DATABASES"], ["SCHEMAS"]] then
    discard (keyword? "HISTORY")
    reportChoice nested
  else if ← anyOfKeywords? [["CHARACTER", "SET"], ["CHARSET"]] then reportFilter nested
  else skipWords

/-- `SHOW`, after the word. -/
def showCommand : Parser Unit := do
  discard (keyword? "TERSE")
  let isExtended ← keyword? "EXTENDED"
  let isFull ← keyword? "FULL"
  discard (keyword? "SESSION")
  discard (keyword? "GLOBAL")
  discard (keyword? "EXTERNAL")
  if ← anyOfKeywords? [["COLUMNS"], ["FIELDS"], ["TABLES"], ["MATERIALIZED", "VIEWS"], ["VIEWS"]]
  then
    reportChoice nested
  else if ← keyword? "FUNCTIONS" then reportFilter nested
  else if isExtended || isFull then mismatch
  else otherReport nested

/-! ### Descriptions -/

/-- The form of a description, if it is said. -/
def explanationFormat : Parser Unit := do
  if ← keyword? "FORMAT" then
    optionalEquals
    discard (oneOf ["GRAPHVIZ", "JSON", "TEXT", "TRADITIONAL"])

/-- A description of a statement or a table, after the word.  A description is not described. -/
def explanation : Parser Unit := do
  if !(← anyOfKeywords? [["QUERY", "PLAN"], ["ESTIMATE"]]) then
    discard (keyword? "ANALYZE")
    discard (keyword? "VERBOSE")
    explanationFormat
  match ← attempt? nested.command with
  | some (.other word) => if ["EXPLAIN", "DESCRIBE", "DESC"].contains word then mismatch
  | some _ => return
  | none =>
    discard (oneOf? ["EXTENDED", "FORMATTED"])
    discard objectName

end SqlGateway.Sql.Parser
