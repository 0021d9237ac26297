import SqlGateway.Sql.Parser.Query

/-!
# Blocks of statements

Statements that hold other statements: branches, loops and the bodies of routines.  Each statement
within them ends with a semicolon.
-/

namespace SqlGateway.Sql.Parser

variable (nested : Nested)

/-! ### Blocks -/

/-- Statements up to one of the given words, which stays, or to the end of the text. -/
def statementsUpTo (endWords : List String) : Parser Unit :=
  discard (many do
    match ← peek with
    | none => return none
    | some token =>
      if endWords.any fun word => token.isKeyword word then return none
      else
        discard nested.command
        symbol ";"
        return some ())

/-- Statements up to one of the given words, or between `BEGIN` and `END`. -/
def block (endWords : List String) : Parser Unit := do
  if ← keyword? "BEGIN" then
    statementsUpTo nested endWords
    keyword "END"
  else statementsUpTo nested endWords

/-- A condition and the statements that it guards. -/
def guardedBlock (endWords : List String) : Parser Unit := do
  discard nested.fullExpr
  keyword "THEN"
  block nested endWords

/-- The statements after `ELSE`, if it comes next. -/
def otherwiseBlock : Parser Unit :=
  discard (clause? ["ELSE"] (block nested ["END"]))

/-! ### Statements -/

/-- `IF`, after the word. -/
def ifCommand : Parser Unit := do
  let endWords := ["ELSE", "ELSEIF", "END"]
  guardedBlock nested endWords
  discard (many (clause? ["ELSEIF"] (guardedBlock nested endWords)))
  otherwiseBlock nested
  keyword "END"
  keyword "IF"

/-- `CASE`, after the word. -/
def caseCommand : Parser Unit := do
  let endWords := ["WHEN", "ELSE", "END"]
  if !(← nextIsKeyword "WHEN") then discard nested.fullExpr
  keyword "WHEN"
  guardedBlock nested endWords
  discard (many (clause? ["WHEN"] (guardedBlock nested endWords)))
  otherwiseBlock nested
  keyword "END"
  discard (keyword? "CASE")

/-- `WHILE`, after the word. -/
def whileCommand : Parser Unit := do
  discard nested.fullExpr
  block nested ["END"]

/-- `RAISE`, after the word. -/
def raiseCommand : Parser Unit := do
  if ← keywords? ["USING", "MESSAGE"] then
    symbol "="
    discard nested.fullExpr
  else discard (attempt? nested.fullExpr)

/-- The message of an error that is raised with its severity, in parentheses with it and more. -/
def raisedMessage : Parser String := do
  symbol "("
  let message ← exprText nested
  symbol ","
  discard nested.fullExpr
  symbol ","
  discard nested.fullExpr
  if ← symbol? "," then discard (commaList nested.fullExpr)
  symbol ")"
  discard (clause? ["WITH"] (commaList (oneOf ["LOG", "NOWAIT", "SETERROR"])))
  return message

end SqlGateway.Sql.Parser
