import SqlGateway.Sql.Parser.Property

/-!
# Calls and cursors

Statements that run what was defined or prepared before, and those that read a result row by row.
-/

namespace SqlGateway.Sql.Parser

variable (nested : Nested)

/-! ### Calls -/

/-- `CALL`, after the word. -/
def callCommand : Parser Unit := do
  discard objectName
  if ← nextIsSymbol "(" then discard (callTail nested)

/-- Whether a statement that is run is given no arguments. -/
def nextEndsCall : Parser Bool := do
  match ← peek with
  | none => return true
  | some token =>
    return token.isSymbol ";" || ["USING", "OUTPUT", "DEFAULT"].any fun word => token.isKeyword word

/-- The arguments of a statement that is run, in parentheses or plain. -/
def executionArguments : Parser Unit := do
  if ← nextIsSymbol "(" then listInParens (discard nested.fullExpr)
  else if !(← nextEndsCall) then discard (commaList nested.fullExpr)

/-- A value that a statement is run with, perhaps with a name. -/
def executionValue : Parser Unit := do
  discard nested.fullExpr
  discard (clause? ["AS"] ident)

/-- `EXECUTE`, after the word. -/
def executeCommand : Parser Unit := do
  discard objectName
  executionArguments nested
  discard (clause? ["INTO"] (commaList ident))
  discard (clause? ["USING"] (commaList (executionValue nested)))
  discard (keyword? "OUTPUT")
  discard (keyword? "DEFAULT")

/-- `PREPARE`, after the word. -/
def prepareCommand : Parser Unit := do
  discard ident
  if ← nextIsSymbol "(" then discard (inParens (commaList dataType))
  keyword "AS"
  discard nested.command

/-! ### Cursors -/

/-- `DECLARE`, after the word. -/
def declareCommand : Parser Unit := do
  discard ident
  discard (keyword? "BINARY")
  discard (oneOf? ["INSENSITIVE", "ASENSITIVE"])
  discard (anyOfKeywords? [["SCROLL"], ["NO", "SCROLL"]])
  keyword "CURSOR"
  if (← oneOf? ["WITH", "WITHOUT"]).isSome then keyword "HOLD"
  keyword "FOR"
  discard nested.query

/-- Which rows are fetched. -/
def fetchedRows : Parser Unit := do
  match ← oneOf? ["NEXT", "PRIOR", "FIRST", "LAST", "ALL", "ABSOLUTE", "RELATIVE", "FORWARD",
    "BACKWARD"] with
  | none => discard numberLiteral
  | some word =>
    if ["ABSOLUTE", "RELATIVE"].contains word then discard numberLiteral
    else if ["FORWARD", "BACKWARD"].contains word then
      if !(← keyword? "ALL") then discard numberLiteral

/-- `FETCH`, after the word. -/
def fetchCommand : Parser Unit := do
  fetchedRows
  discard (oneOf ["FROM", "IN"])
  discard ident
  discard (clause? ["INTO"] objectName)

/-- `CLOSE`, after the word. -/
def closeCommand : Parser Unit := do
  if ← keyword? "ALL" then return else discard ident

end SqlGateway.Sql.Parser
