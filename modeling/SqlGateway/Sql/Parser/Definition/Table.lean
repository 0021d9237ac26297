import SqlGateway.Sql.Parser.Definition.Column

/-!
# Tables and their storage

What makes a table: its columns, where and how it is kept, and the rows that it begins with.
-/

namespace SqlGateway.Sql.Parser

variable (nested : Nested)

/-! ### Elements -/

/-- A column or a constraint of a table. -/
def tableElement : Parser Unit := do
  match ← tableConstraint? nested with
  | some _ => return
  | none =>
    match ← peek with
    | some (.word _) => columnDefinition nested
    | _ => mismatch

/-- The columns and constraints of a table, if a parenthesis comes next. -/
def tableElements : Parser Unit := do
  if ← nextIsSymbol "(" then listInParens (tableElement nested)

/-! ### Storage -/

/-- How the fields of a row are kept apart, after `DELIMITED`. -/
def rowDelimiters : Parser Unit :=
  discard (many do
    if ← keywords? ["FIELDS", "TERMINATED", "BY"] then
      discard ident
      some <$> discard (clause? ["ESCAPED", "BY"] ident)
    else if ← anyOfKeywords? [["COLLECTION", "ITEMS", "TERMINATED", "BY"],
        ["MAP", "KEYS", "TERMINATED", "BY"], ["LINES", "TERMINATED", "BY"],
        ["NULL", "DEFINED", "AS"]] then
      some <$> discard ident
    else return none)

/-- How rows are kept, after `ROW`. -/
def rowFormat : Parser Unit := do
  keyword "FORMAT"
  if ← keyword? "SERDE" then discard quotedOrFreeWord
  else
    keyword "DELIMITED"
    rowDelimiters

/-- Where or how a table is kept, if that comes next. -/
def storageClause? : Parser (Option Unit) := do
  if ← keyword? "ROW" then some <$> rowFormat
  else if ← keyword? "STORED" then
    keyword "AS"
    if ← keyword? "INPUTFORMAT" then
      discard nested.fullExpr
      keyword "OUTPUTFORMAT"
      some <$> discard nested.fullExpr
    else some <$> discard (oneOf fileFormats)
  else if ← keyword? "LOCATION" then some <$> discard quotedOrFreeWord
  else if ← someProperties? nested ["WITH", "SERDEPROPERTIES"] then return some ()
  else return none

/-- How the rows of a table are spread, as far as it is said. -/
def spreading : Parser Unit := do
  discard (clause? ["PARTITIONED", "BY"] (inParens (commaList (columnDefinition nested))))
  discard (clause? ["CLUSTERED", "BY"] do
    discard identList
    discard (clause? ["SORTED", "BY"] (inParens (sortItems nested)))
    keyword "INTO"
    discard numberLiteral
    keyword "BUCKETS")

/-! ### Settings -/

/-- The words that set a property of a table, with a value behind them. -/
def tableSettings : List (List String) :=
  [["DEFAULT", "CHARSET"], ["CHARSET"], ["DEFAULT", "CHARACTER", "SET"], ["CHARACTER", "SET"],
    ["DEFAULT", "COLLATE"], ["COLLATE"], ["DATA", "DIRECTORY"], ["INDEX", "DIRECTORY"],
    ["KEY_BLOCK_SIZE"], ["ROW_FORMAT"], ["PACK_KEYS"], ["STATS_AUTO_RECALC"], ["STATS_PERSISTENT"],
    ["STATS_SAMPLE_PAGES"], ["DELAY_KEY_WRITE"], ["COMPRESSION"], ["ENCRYPTION"], ["MAX_ROWS"],
    ["MIN_ROWS"], ["AUTOEXTEND_SIZE"], ["AVG_ROW_LENGTH"], ["CHECKSUM"], ["CONNECTION"],
    ["ENGINE_ATTRIBUTE"], ["PASSWORD"], ["SECONDARY_ENGINE_ATTRIBUTE"], ["INSERT_METHOD"],
    ["AUTO_INCREMENT"]]

/-- The space that a table is kept in, after the word, and the medium of the space. -/
def tablespace : Parser Unit := do
  optionalEquals
  match ← next with
  | .word _ => pure ()
  | .string '\'' _ => pure ()
  | _ => mismatch
  if ← keyword? "STORAGE" then
    optionalEquals
    match ← next with
    | .word w =>
      if ["DISK", "MEMORY"].contains (String.ofList (Text.upper w.text.toList)) then return
      else mismatch
    | _ => mismatch

/-- A property of a table, if one comes next. -/
def tableProperty? : Parser (Option Unit) := do
  if ← keywords? ["START", "TRANSACTION"] then return some ()
  else if ← keyword? "COMMENT" then
    optionalEquals
    some <$> plainString
  else if ← keyword? "ENGINE" then
    optionalEquals
    match ← next with
    | .word _ => pure ()
    | _ => mismatch
    if ← nextIsSymbol "(" then discard identList
    return some ()
  else if ← keyword? "TABLESPACE" then some <$> tablespace
  else if ← keyword? "UNION" then
    optionalEquals
    some <$> listInParens (discard ident)
  else if ← anyOfKeywords? tableSettings then
    optionalEquals
    match ← attempt? literal with
    | some _ => return some ()
    | none => some <$> discard ident
  else return none

/-- The properties of a table, perhaps with commas between them. -/
def plainTableProperties : Parser Unit :=
  discard (many do
    match ← tableProperty? with
    | some _ => some <$> discard (symbol? ",")
    | none => return none)

/-- The properties of a table, in parentheses or plain. -/
def tableProperties : Parser Unit := do
  discard (clause? ["INHERITS"] (inParens objectNames))
  let isWith ← properties? nested "WITH"
  let isListed ← properties? nested "TBLPROPERTIES"
  if !isWith && !isListed then plainTableProperties

/-! ### The whole definition -/

/-- The rows that a table begins with, if they are given. -/
def tableRows : Parser Unit := do
  if ← keyword? "AS" then discard nested.query
  else if ← nextIsKeyword "SELECT" then discard nested.query

/-- The order of the rows of a table, after `ORDER BY`. -/
def tableOrder : Parser Unit := do
  if ← nextIsSymbol "(" then listInParens (discard nested.fullExpr) else discard nested.fullExpr

/-- The definition of a table, after the word. -/
def tableDefinition : Parser Unit := do
  ifNotExists
  discard objectName
  onCluster
  if (← oneOf? ["LIKE", "ILIKE"]).isSome then discard objectName
  if ← keyword? "CLONE" then discard (attempt? objectName)
  tableElements nested
  discard (keywords? ["WITHOUT", "ROWID"])
  spreading nested
  discard (many (storageClause? nested))
  tableProperties nested
  discard (clause? ["ORDER", "BY"] (tableOrder nested))
  if ← keywords? ["ON", "COMMIT"] then
    anyOfKeywords [["DELETE", "ROWS"], ["PRESERVE", "ROWS"], ["DROP"]]
  discard (keyword? "STRICT")
  tableRows nested

/-- The definition of a table that is kept elsewhere, after `EXTERNAL`. -/
def externalTableDefinition : Parser Unit := do
  keyword "TABLE"
  ifNotExists
  discard objectName
  tableElements nested
  spreading nested
  discard (many (storageClause? nested))
  discard (properties? nested "TBLPROPERTIES")

/-- The definition of a table that a module provides, after `VIRTUAL`. -/
def virtualTableDefinition : Parser Unit := do
  keyword "TABLE"
  ifNotExists
  discard objectName
  keyword "USING"
  discard ident
  discard (optionalColumns false)

end SqlGateway.Sql.Parser
