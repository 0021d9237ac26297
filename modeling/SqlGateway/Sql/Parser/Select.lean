import SqlGateway.Sql.Parser.Table

/-!
# Select lists and clauses

The clauses of a `SELECT` in the order in which they stand, and rows written out.
-/

namespace SqlGateway.Sql.Parser

variable (nested : Nested)

/-! ### The select list -/

/-- Whether a name is the word `FROM` without quotes. -/
def isBareFrom (id : Ident) : Bool :=
  id.quote.isNone && Text.upper id.text.toList = "FROM".toList

/-- An entry of a select list.  The word `FROM` is none, so that a list cannot be left empty. -/
def selectItem : Parser SelectItem := do
  match ← starOrExpr nested with
  | .expr e _ =>
    match e with
    | .name id => if isBareFrom id then mismatch
    | _ => pure ()
    return .expr e ((← label? reservedAfterColumn).map Prod.snd)
  | item => return item

/-- Entries with commas between them. -/
def selectItems : Parser (List SelectItem) :=
  commaList (selectItem nested)

/-- Whether equal rows are left out, if it is said. -/
def distinctClause : Parser (Option String) := do
  let all ← keyword? "ALL"
  if ← keyword? "DISTINCT" then
    if all then mismatch
    else if ← keyword? "ON" then
      let texts ← inParens do
        if ← nextIsSymbol ")" then return [] else commaList (exprText nested)
      return some ("DISTINCT ON (" ++ commaText texts ++ ")")
    else return some "DISTINCT"
  else return none

/-- How many of the first rows are taken, if it is said. -/
def topClause : Parser (Option String) := do
  if ← keyword? "TOP" then
    let quantity ←
      if ← nextIsSymbol "(" then do pure ("(" ++ (← inParens (exprText nested)) ++ ")")
      else count
    let unit ← optionalWords ["PERCENT"]
    let ties ← optionalWords ["WITH", "TIES"]
    return some ("TOP " ++ quantity ++ unit ++ ties)
  else return none

/-- The table that rows are put into. -/
def intoTarget : Parser String := do
  let lifetime ← match ← oneOf? ["TEMP", "TEMPORARY"] with
    | some _ => pure "TEMPORARY "
    | none => pure ""
  let logging ← if ← keyword? "UNLOGGED" then pure "UNLOGGED " else pure ""
  let kind ← if ← keyword? "TABLE" then pure "TABLE " else pure ""
  return lifetime ++ logging ++ kind ++ nameText (← objectName)

/-! ### Views, groups and windows -/

/-- The words that may follow a view and so are no names of its columns. -/
def reservedAfterView : List String :=
  ["WHERE", "GROUP", "CLUSTER", "HAVING", "LATERAL"]

/-- Rows that an expression adds to each row, if such a view comes next. -/
def lateralView? : Parser (Option String) :=
  clause? ["LATERAL", "VIEW"] do
    let outer ← optionalWords ["OUTER"]
    let source ← exprText nested
    let name ← objectName
    let columns ← commaList (label? reservedAfterView)
    let texts := columns.filterMap fun column => column.map fun (_, id) => id.sqlText
    return " LATERAL VIEW" ++ outer ++ " " ++ source ++ " " ++ nameText name ++
      (if texts.isEmpty then "" else " AS " ++ commaText texts)

/-- A further total of groups, if one comes next. -/
def groupModifier? : Parser (Option String) := do
  clause? ["WITH"] do return " WITH " ++ (← oneOf ["ROLLUP", "CUBE", "TOTALS"])

/-- One of several sets of keys: a key, or any number of keys in parentheses. -/
def groupingSet : Parser String := do
  if ← symbol? "(" then
    if ← symbol? ")" then return "()"
    else
      let texts ← exprTexts nested
      symbol ")"
      return "(" ++ texts ++ ")"
  else return "(" ++ (← exprText nested) ++ ")"

/-- What rows are grouped by. -/
def grouping : Parser Grouping := do
  let keys ← if ← keyword? "ALL" then pure none else some <$> commaList (exprText nested)
  let totals ← many groupModifier?
  let sets ← clause? ["GROUPING", "SETS"] (inParens (commaList (groupingSet nested)))
  let further := sets.map fun texts => " GROUPING SETS (" ++ commaText texts ++ ")"
  return { keys, totals := totals ++ further.toList }

/-- Sort keys with commas between them. -/
def sortItems : Parser (List SortItem) :=
  commaList (sortItem nested)

/-- How rows are spread and sorted before they are grouped. -/
def clusteringClauses : Parser (List String) := do
  let clusters ← textClause ["CLUSTER", "BY"] (exprTexts nested)
  let parts ← textClause ["DISTRIBUTE", "BY"] (exprTexts nested)
  let order ← textClause ["SORT", "BY"] (sortText nested)
  return (clusters ++ parts ++ order).map (" " ++ ·)

/-- A window with a name. -/
def namedWindow : Parser String := do
  let name ← ident
  keyword "AS"
  symbol "("
  return name.sqlText ++ " AS (" ++ (← window nested) ++ ")"

/-- The named windows and the condition on windows, in either order, and whether the condition
comes first. -/
def windowClauses : Parser (Option String × Option String × Bool) := do
  let windows := clause? ["WINDOW"] do return commaText (← commaList (namedWindow nested))
  let first ← windows
  let qualify ← clause? ["QUALIFY"] (exprText nested)
  if first.isNone && qualify.isSome then return (← windows, qualify, true)
  else return (first, qualify, false)

/-! ### Bodies -/

/-- A `SELECT`, after the word. -/
def selectBody : Parser Select := do
  let distinct ← distinctClause nested
  let top ← topClause nested
  let items ← selectItems nested
  let into ← clause? ["INTO"] intoTarget
  let sources := (← clause? ["FROM"] (tableSources nested)).getD []
  let lateralViews ← many (lateralView? nested)
  let condition ← clause? ["WHERE"] nested.fullExpr
  let groupBy := (← clause? ["GROUP", "BY"] (grouping nested)).getD .absent
  let clustering ← clusteringClauses nested
  let having ← clause? ["HAVING"] nested.fullExpr
  let (windows, qualify, qualifyFirst) ← windowClauses nested
  return {
    distinct, top, items, into, sources, lateralViews, condition, groupBy, clustering, having,
    windows, qualify, qualifyFirst }

/-- A row written out, and whether the word `ROW` stands before it. -/
def valuesRow : Parser (Bool × List Expr) := do
  let isExplicit ← keyword? "ROW"
  symbol "("
  if ← symbol? ")" then return (isExplicit, [])
  else
    let items ← commaList nested.fullExpr
    symbol ")"
    return (isExplicit, items)

/-- Rows written out, after the given word. -/
def valuesBody (word : String) : Parser Values := do
  let rows ← commaList (valuesRow nested)
  return { keyword := word, explicitRow := rows.any Prod.fst, rows := rows.map Prod.snd }

end SqlGateway.Sql.Parser
