import SqlGateway.Sql.Parser.Label

/-!
# Turned tables

Behind a table its rows can be turned into columns, or its columns into rows.  Either is read from
behind its first word and kept as a text, which begins with a blank.
-/

namespace SqlGateway.Sql.Parser

variable (nested : Nested)

/-! ### Rows into columns -/

/-- Another name for what is computed in a turned table.  `FOR` is none: it begins what follows. -/
def aggregateLabel : Parser String := do
  if (dropKeywords? ["AS", "FOR"] (← get)).isSome then mismatch
  match ← label? ("FOR" :: reservedAfterColumn) with
  | none => return ""
  | some (_, name) => return " AS " ++ name.sqlText

/-- What is computed for each column: the call of a function. -/
def aggregate : Parser String := do
  match ← next with
  | .word w =>
    let call ← callTail nested
    return w.text ++ call ++ (← aggregateLabel)
  | _ => mismatch

/-- A value with another name, if it is given one. -/
def namedValue : Parser String := do
  let value ← exprText nested
  let name ← clause? ["AS"] ident
  return value ++ clauseText " AS " (name.map Ident.sqlText)

/-- The values that become columns. -/
def pivotValues : Parser String := do
  if ← keyword? "ANY" then
    return "ANY" ++ clauseText " ORDER BY " (← clause? ["ORDER", "BY"] (sortText nested))
  else if (← nextIsKeyword "SELECT") || (← nextIsKeyword "WITH") then queryText nested
  else return commaText (← commaList (namedValue nested))

/-- The column whose values become columns, or several in parentheses. -/
def pivotColumns : Parser String := do
  let column : Parser String := do return (← nested.expr rangeStrength).sqlText
  if ← nextIsSymbol "(" then
    match ← inParens (commaList column) with
    | [text] => return text
    | texts => return "(" ++ commaText texts ++ ")"
  else column

/-- A table with rows turned into columns, after `PIVOT`. -/
def pivot : Parser String := do
  symbol "("
  let aggregates ← commaList (aggregate nested)
  keyword "FOR"
  let columns ← pivotColumns nested
  keyword "IN"
  let values ← inParens (pivotValues nested)
  let fallback ← clause? ["DEFAULT", "ON", "NULL"] (inParens (exprText nested))
  symbol ")"
  return " PIVOT(" ++ commaText aggregates ++ " FOR " ++ columns ++ " IN (" ++ values ++ ")" ++
    clauseText " DEFAULT ON NULL (" (fallback.map (· ++ ")")) ++ ")" ++ (← tableLabel)

/-! ### Columns into rows -/

/-- A table with columns turned into rows, after `UNPIVOT`. -/
def unpivot : Parser String := do
  let nulls ← match ← oneOf? ["INCLUDE", "EXCLUDE"] with
    | some word => do
      keyword "NULLS"
      pure (" " ++ word ++ " NULLS ")
    | none => pure ""
  symbol "("
  let value ← exprText nested
  keyword "FOR"
  let name ← ident
  keyword "IN"
  let columns ← inParens (commaList (namedValue nested))
  symbol ")"
  return " UNPIVOT" ++ nulls ++ "(" ++ value ++ " FOR " ++ name.sqlText ++ " IN (" ++
    commaText columns ++ "))" ++ (← tableLabel)

/-- A turn of the table before, if one comes next. -/
def turn? : Parser (Option String) := do
  if ← keyword? "PIVOT" then some <$> pivot nested
  else if ← keyword? "UNPIVOT" then some <$> unpivot nested
  else return none

end SqlGateway.Sql.Parser
