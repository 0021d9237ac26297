import SqlGateway.Sql.Parser.Definition.Column
import SqlGateway.Sql.Parser.Flow

/-!
# Routines and triggers

Definitions of what is run: procedures, and triggers with their events.
-/

namespace SqlGateway.Sql.Parser

variable (nested : Nested)

/-! ### Parameters -/

/-- The direction of a parameter, if it is given. -/
def parameterMode : Parser Unit :=
  discard (oneOf? ["IN", "OUT", "INOUT"])

/-- A parameter of a procedure. -/
def procedureParameter : Parser Unit := do
  parameterMode
  discard ident
  discard dataType
  if ← symbol? "=" then discard nested.fullExpr

/-- The parameters of a procedure, if a parenthesis comes next.  A comma may stand before the
closing one. -/
def procedureParameters : Parser Unit := do
  if ← symbol? "(" then
    if !(← symbol? ")") then
      procedureParameter nested
      discard (many do
        if (← nextIsSymbol ",") && !(← get).tail.head?.any (Token.isSymbol ")") then
          symbol ","
          some <$> procedureParameter nested
        else return none)
      discard (symbol? ",")
      symbol ")"

/-- A parameter by its type, perhaps with its name and a value. -/
def routineParameter : Parser Unit := do
  parameterMode
  discard dataType
  if !(← nextIsKeyword "DEFAULT") then discard (attempt? dataType)
  if (← keyword? "DEFAULT") || (← symbol? "=") then discard nested.fullExpr

/-- A routine by its name, perhaps with its parameters. -/
def routineName : Parser Unit := do
  discard objectName
  if ← nextIsSymbol "(" then listInParens (routineParameter nested)

/-! ### Definitions -/

/-- The definition of a procedure, after the word. -/
def procedureDefinition : Parser Unit := do
  discard objectName
  procedureParameters nested
  discard (clause? ["LANGUAGE"] ident)
  keyword "AS"
  block nested ["END"]

/-- What a trigger is for. -/
def triggerEvent : Parser Unit := do
  if ← keyword? "UPDATE" then discard (clause? ["OF"] (commaList ident))
  else discard (oneOf ["INSERT", "DELETE", "TRUNCATE"])

/-- The old or the new rows by another name, if they come next. -/
def changedRows? : Parser (Option Unit) := do
  if ← anyOfKeywords? [["OLD", "TABLE"], ["NEW", "TABLE"]] then
    discard (keyword? "AS")
    some <$> discard objectName
  else return none

/-- The definition of a trigger, after the word. -/
def triggerDefinition : Parser Unit := do
  discard objectName
  discard (anyOfKeywords? [["FOR"], ["BEFORE"], ["AFTER"], ["INSTEAD", "OF"]])
  keywordList "OR" triggerEvent
  keyword "ON"
  discard objectName
  if ← keyword? "FROM" then discard (attempt? objectName)
  constraintChecks
  if ← keyword? "REFERENCING" then discard (many changedRows?)
  if ← keyword? "FOR" then
    discard (keyword? "EACH")
    discard (oneOf ["ROW", "STATEMENT"])
  discard (clause? ["WHEN"] nested.fullExpr)
  if ← keyword? "EXECUTE" then
    discard (oneOf ["FUNCTION", "PROCEDURE"])
    routineName nested
  else block nested ["END"]

end SqlGateway.Sql.Parser
