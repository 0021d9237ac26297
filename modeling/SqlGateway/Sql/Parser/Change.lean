import SqlGateway.Sql.Parser.Select

/-!
# Changes of a table

`INSERT`, `UPDATE`, `DELETE` and `MERGE`, each from behind its first word.  The gateway does not
serve the last, so only its text is kept.
-/

namespace SqlGateway.Sql.Parser

variable (nested : Nested)

/-! ### Assignments and targets -/

/-- A column, or several in parentheses, that values are assigned to. -/
def assignmentTarget : Parser String := do
  if ← nextIsSymbol "(" then
    return "(" ++ commaText ((← inParens (commaList objectName)).map nameText) ++ ")"
  else return nameText (← objectName)

/-- An assignment. -/
def assignment : Parser SetItem := do
  let target ← assignmentTarget
  symbol "="
  return { target, value := ← nested.fullExpr }

/-- Assignments with commas between them. -/
def assignments : Parser (List SetItem) :=
  commaList (assignment nested)

/-- What is done about a conflict, if it is said after `OR`.  Of the choices `REPLACE` also stands
alone. -/
def conflictChoice : Parser (Option String) := do
  match ← get with
  | orWord :: .word w :: rest =>
    if orWord.isKeyword "OR" &&
        ["REPLACE", "ROLLBACK", "ABORT", "FAIL", "IGNORE"].contains w.keyword then
      set rest
      return some ("OR " ++ w.keyword)
    else replaceAlone
  | _ => replaceAlone
where
  replaceAlone : Parser (Option String) := do
    if ← keyword? "REPLACE" then return some "OR REPLACE" else return none

/-- The entries of changed rows that are given back, if it is said. -/
def returningClause : Parser (Option String) :=
  clause? ["RETURNING"] do
    return commaText ((← selectItems nested).map SelectItem.sqlText)

/-- Columns in parentheses, if a parenthesis comes next. -/
def optionalColumns (mayBeEmpty : Bool) : Parser (List Ident) := do
  match ← get with
  | .symbol "(" :: .symbol ")" :: rest =>
    if mayBeEmpty then
      set rest
      return []
    else mismatch
  | .symbol "(" :: _ => identList
  | _ => return []

/-! ### Insertion -/

/-- What an insertion puts into the table. -/
structure InsertContent where
  columns : List Ident
  partition : Option String
  assignments : List SetItem
  source : Option Query

/-- Whether a query in parentheses comes next, and not a list of columns. -/
def nextIsSubquery : Parser Bool := do
  match ← get with
  | .symbol "(" :: token :: _ => return token.isKeyword "SELECT"
  | _ => return false

/-- The content of an insertion, behind the name of the table. -/
def insertContent : Parser InsertContent := do
  if ← keywords? ["DEFAULT", "VALUES"] then
    return { columns := [], partition := none, assignments := [], source := none }
  else
    let (columns, partition) ←
      if ← nextIsSubquery then pure ([], none)
      else do
        let columns ← optionalColumns true
        pure (columns, ← clause? ["PARTITION"] (inParens (exprTexts nested)))
    if ← keyword? "SET" then
      return { columns, partition, assignments := ← assignments nested, source := none }
    else return { columns, partition, assignments := [], source := some (← nested.query) }

/-- What is done about rows that exist already, after `ON`. -/
def existingRows : Parser String := do
  if ← keyword? "CONFLICT" then
    let target ←
      if ← keywords? ["ON", "CONSTRAINT"] then do
        pure (" ON CONSTRAINT " ++ nameText (← objectName))
      else if ← nextIsSymbol "(" then do
        pure ("(" ++ commaText ((← identList).map Ident.sqlText) ++ ")")
      else pure ""
    keyword "DO"
    if ← keyword? "NOTHING" then return "CONFLICT" ++ target ++ " DO NOTHING"
    else
      keyword "UPDATE"
      keyword "SET"
      let items ← assignments nested
      let condition ← clause? ["WHERE"] (exprText nested)
      return "CONFLICT" ++ target ++ " DO UPDATE SET " ++ assignmentsText items ++
        clauseText " WHERE " condition
  else
    keyword "DUPLICATE"
    keyword "KEY"
    keyword "UPDATE"
    return "DUPLICATE KEY UPDATE " ++ assignmentsText (← assignments nested)

/-- Another name for the new row, and names for its columns, after `AS`. -/
def rowName : Parser String := do
  let name ← objectName
  let columns ← optionalColumns false
  return nameText name ++
    (if columns.isEmpty then "" else " (" ++ commaText (columns.map Ident.sqlText) ++ ")")

/-- The forms of the files that rows are kept in. -/
def fileFormats : List String :=
  ["TEXTFILE", "SEQUENCEFILE", "ORC", "PARQUET", "AVRO", "RCFILE", "JSONFILE"]

/-- Rows that are written to a directory, after the word. -/
def directoryContent : Parser Unit := do
  discard quotedOrFreeWord
  discard (clause? ["STORED", "AS"] (oneOf fileFormats))
  discard nested.query

/-- An `INSERT`, or a `REPLACE` if `replaces` holds.  One into a directory changes no table. -/
def insertCommand (replaces : Bool) : Parser Command := do
  let choice ← conflictChoice
  let priority ← oneOf? ["LOW_PRIORITY", "DELAYED", "HIGH_PRIORITY"]
  let ignores ← keyword? "IGNORE"
  let overwrites ← keyword? "OVERWRITE"
  let opening ← optionalWords ["INTO"]
  discard (keyword? "LOCAL")
  if ← keyword? "DIRECTORY" then
    directoryContent nested
    return .other "INSERT"
  else
    let opening := opening ++ (← optionalWords ["TABLE"])
    let table ← objectName
    let content ← insertContent nested
    let newName ← clause? ["AS"] rowName
    let onConflict ← clause? ["ON"] (existingRows nested)
    let returning ← returningClause nested
    return .insert {
      replaces, ignores, choice, priority, overwrites, opening, onConflict, returning
      target := .table table
      columns := content.columns
      partition := content.partition
      assignments := content.assignments
      source := content.source
      rowName := newName }

/-! ### Update and deletion -/

/-- An `UPDATE`.  Other tables are named either before or behind the assignments. -/
def updateCommand : Parser Update := do
  let choice ← conflictChoice
  let target ← tableSource nested
  let before ← clause? ["FROM"] (tableSources nested)
  keyword "SET"
  let items ← assignments nested
  let sources ← match before with
    | some sources => pure (some (.before sources))
    | none => pure ((← clause? ["FROM"] (tableSources nested)).map .behind)
  let condition ← clause? ["WHERE"] nested.fullExpr
  let returning ← returningClause nested
  let limit ← clause? ["LIMIT"] nested.fullExpr
  return {
    choice, target, sources, condition, returning, limit
    assignments := items }

/-- A limit on rows; `ALL` is none. -/
def limitValue : Parser (Option Expr) := do
  if ← keyword? "ALL" then return none else return some (← nested.fullExpr)

/-- A `DELETE`. -/
def deleteCommand : Parser Delete := do
  let targets ←
    if ← keyword? "FROM" then pure []
    else do
      let targets ← commaList objectName
      keyword "FROM"
      pure targets
  let sources ← tableSources nested
  let extraSources ← clause? ["USING"] (tableSources nested)
  let condition ← clause? ["WHERE"] nested.fullExpr
  let returning ← returningClause nested
  let order ← clause? ["ORDER", "BY"] (sortItems nested)
  let limit ← clause? ["LIMIT"] (limitValue nested)
  return {
    targets, sources, condition, returning
    extraSources := extraSources.getD []
    order := order.getD []
    limit := limit.getD none }

/-! ### Merging -/

/-- What is done to rows that match, or to rows that do not, as a text. -/
def mergeAction (matched : Bool) : Parser String := do
  if matched then
    if ← keyword? "UPDATE" then
      keyword "SET"
      return "UPDATE SET " ++ assignmentsText (← assignments nested)
    else
      keyword "DELETE"
      return "DELETE"
  else
    keyword "INSERT"
    let columns ← optionalColumns true
    keyword "VALUES"
    return "INSERT " ++
      (if columns.isEmpty then "" else "(" ++ commaText (columns.map Ident.sqlText) ++ ") ") ++
      (← valuesBody nested "VALUES").sqlText

/-- A case of a `MERGE`, as a text, if one comes next. -/
def mergeCase? : Parser (Option String) :=
  clause? ["WHEN"] do
    let negated ← keyword? "NOT"
    keyword "MATCHED"
    let side ←
      if !negated then pure ""
      else if ← keywords? ["BY", "SOURCE"] then pure " BY SOURCE"
      else optionalWords ["BY", "TARGET"]
    let condition ← clause? ["AND"] (exprText nested)
    keyword "THEN"
    let action ← mergeAction nested (!negated || side == " BY SOURCE")
    return "WHEN " ++ negationText negated ++ "MATCHED" ++ side ++ clauseText " AND " condition ++
      " THEN " ++ action

/-- The entries of changed rows that a `MERGE` gives back, as a text, if it is said. -/
def mergeOutput : Parser String := do
  match ← oneOf? ["OUTPUT", "RETURNING"] with
  | none => return ""
  | some word =>
    let items ← selectItems nested
    let target ← if word = "OUTPUT" then clause? ["INTO"] intoTarget else pure none
    return " " ++ word ++ " " ++ commaText (items.map SelectItem.sqlText) ++
      clauseText " INTO " target

/-- A `MERGE`, as a text. -/
def mergeCommand : Parser String := do
  let into ← optionalWords ["INTO"]
  let target ← tableFactor nested
  keyword "USING"
  let source ← tableFactor nested
  keyword "ON"
  let condition ← exprText nested
  let cases ← many (mergeCase? nested)
  return "MERGE" ++ into ++ " " ++ target.sqlText ++ " USING " ++ source.sqlText ++ " ON " ++
    condition ++ " " ++ " ".intercalate cases ++ (← mergeOutput nested)

end SqlGateway.Sql.Parser
