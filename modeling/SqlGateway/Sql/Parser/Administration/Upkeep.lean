import SqlGateway.Sql.Parser.Property

/-!
# Upkeep

Statements that keep tables in order, lock them, write them out or hold them ready.
-/

namespace SqlGateway.Sql.Parser

variable (nested : Nested)

/-! ### Locks -/

/-- A table that is locked, and how. -/
def lockedTable : Parser Unit := do
  discard ident
  discard (label? ["READ", "WRITE", "LOW_PRIORITY"])
  if ← keyword? "READ" then discard (keyword? "LOCAL")
  else
    discard (keyword? "LOW_PRIORITY")
    keyword "WRITE"

/-! ### Writing out -/

/-- The things that can be written out, but for tables and relays. -/
def flushable : List (List String) :=
  [["BINARY", "LOGS"], ["ENGINE", "LOGS"], ["ERROR", "LOGS"], ["GENERAL", "LOGS"], ["HOSTS"],
    ["PRIVILEGES"], ["OPTIMIZER_COSTS"], ["SLOW", "LOGS"], ["STATUS"], ["USER_RESOURCES"], ["LOGS"]]

/-- Names of tables and what is done with them, in any order, up to a token that is no word; that
token is taken too.  Words that say nothing here are skipped. -/
def flushedTablesWithin : Nat → Parser Unit
  | 0 => return
  | rounds + 1 => do
    match ← get with
    | .word w :: rest =>
      if w.isKeyword then
        set rest
        match w.keyword with
        | "WITH" => discard (keywords? ["READ", "LOCK"])
        | "FOR" => discard (keyword? "EXPORT")
        | _ => pure ()
      else objectNames
      flushedTablesWithin rounds
    | tokens => set tokens.tail

/-- `FLUSH`, after the word. -/
def flushCommand : Parser Unit := do
  discard (oneOf? ["NO_WRITE_TO_BINLOG", "LOCAL"])
  if ← anyOfKeywords? flushable then return
  else if ← keywords? ["RELAY", "LOGS"] then discard (clause? ["FOR", "CHANNEL"] objectName)
  else
    keyword "TABLES"
    flushedTablesWithin ((← get).length + 1)

/-! ### Order -/

/-- What is looked at in a table, if it is said. -/
def analysis? : Parser (Option Unit) := do
  match ← oneOf? ["PARTITION", "NOSCAN", "FOR", "CACHE", "COMPUTE"] with
  | none => return none
  | some "PARTITION" => some <$> discard (inParens (commaList nested.fullExpr))
  | some "FOR" =>
    keyword "COLUMNS"
    some <$> discard (attempt? (commaList ident))
  | some "CACHE" => some <$> keyword "METADATA"
  | some "COMPUTE" => some <$> keyword "STATISTICS"
  | some _ => return some ()

/-- `ANALYZE`, after the word. -/
def analyzeCommand : Parser Unit := do
  discard (keyword? "TABLE")
  discard objectName
  discard (many (analysis? nested))

/-- `VACUUM`, after the word. -/
def vacuumCommand : Parser Unit := do
  discard (keyword? "FULL")
  discard (keywords? ["SORT", "ONLY"])
  discard (keywords? ["DELETE", "ONLY"])
  discard (keyword? "REINDEX")
  discard (keyword? "RECLUSTER")
  match ← attempt? objectName with
  | none => return
  | some _ =>
    if ← keyword? "TO" then
      discard literal
      keyword "PERCENT"
    discard (keyword? "BOOST")

/-- `MSCK`, after the word. -/
def checkCommand : Parser Unit := do
  discard (keyword? "REPAIR")
  keyword "TABLE"
  discard objectName
  discard (anyOfKeywords? [["ADD", "PARTITIONS"], ["DROP", "PARTITIONS"], ["SYNC", "PARTITIONS"],
    ["PARTITIONS"]])

/-! ### Holding ready -/

/-- `CACHE`, after the word.  Whatever stands behind the table and its properties is a query. -/
def cacheCommand : Parser Unit := do
  if !(← keyword? "TABLE") then
    discard objectName
    keyword "TABLE"
  discard objectName
  discard (properties? nested "OPTIONS")
  match ← peek with
  | none => return
  | some (.word _) =>
    discard (keyword? "AS")
    discard nested.query
  | some _ => mismatch

/-- `UNCACHE`, after the word. -/
def uncacheCommand : Parser Unit := do
  keyword "TABLE"
  ifExists
  discard objectName

/-- `ATTACH`, after the word. -/
def attachCommand : Parser Unit := do
  discard (keyword? "DATABASE")
  discard nested.fullExpr
  keyword "AS"
  discard ident

end SqlGateway.Sql.Parser
