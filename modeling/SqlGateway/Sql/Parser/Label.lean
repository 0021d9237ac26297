import SqlGateway.Sql.Parser.Expr

/-!
# Other names

Tables and entries of a select list may be given another name.  Without `AS` it has to be told from
the word that begins the next clause, so some words are reserved, more of them behind a table.
-/

namespace SqlGateway.Sql.Parser

/-- The words that may follow an entry of a select list and so are no other name for it. -/
def reservedAfterColumn : List String :=
  ["WITH", "EXPLAIN", "ANALYZE", "SELECT", "WHERE", "GROUP", "SORT", "HAVING", "ORDER", "TOP",
    "LATERAL", "VIEW", "LIMIT", "OFFSET", "FETCH", "UNION", "EXCEPT", "EXCLUDE", "INTERSECT",
    "MINUS", "CLUSTER", "DISTRIBUTE", "RETURNING", "FROM", "INTO", "END"]

/-- The words that may follow a table and so are no other name for it. -/
def reservedAfterTable : List String :=
  ["WITH", "EXPLAIN", "ANALYZE", "SELECT", "WHERE", "GROUP", "SORT", "HAVING", "ORDER", "PIVOT",
    "UNPIVOT", "TOP", "LATERAL", "VIEW", "LIMIT", "OFFSET", "FETCH", "UNION", "EXCEPT", "INTERSECT",
    "MINUS", "ON", "JOIN", "INNER", "CROSS", "FULL", "LEFT", "RIGHT", "NATURAL", "USING", "CLUSTER",
    "DISTRIBUTE", "GLOBAL", "ANTI", "SEMI", "RETURNING", "OUTPUT", "ASOF", "MATCH_CONDITION",
    "OUTER", "SET", "QUALIFY", "WINDOW", "END", "FOR", "PARTITION", "PREWHERE", "SETTINGS",
    "FORMAT", "START", "CONNECT", "MATCH_RECOGNIZE", "SAMPLE", "TABLESAMPLE", "FROM", "OPEN", "USE",
    "IGNORE", "FORCE", "STRAIGHT_JOIN"]

/-- The columns behind another name, each perhaps with a type, as texts. -/
def labelColumns : Parser (List String) := do
  if ← symbol? "(" then
    let columns ← commaList do
      let name ← ident
      match ← attempt? dataType with
      | some type => return name.sqlText ++ " " ++ type.sqlText
      | none => return name.sqlText
    symbol ")"
    return columns
  else return []

/-- Another name for a table, if one comes next. -/
def tableLabel? : Parser (Option TableLabel) := do
  match ← label? reservedAfterTable with
  | none => return none
  | some (isExplicit, name) => return some { isExplicit, name, columns := ← labelColumns }

/-- Another name for a table with what stands before and behind it, as a text; empty without one. -/
def tableLabel : Parser String := do
  return ((← tableLabel?).map TableLabel.sqlText).getD ""

/-- Several words, of which none or all are written, as a text with a blank before it. -/
def optionalWords (words : List String) : Parser String := do
  if ← keywords? words then return " " ++ " ".intercalate words else return ""

end SqlGateway.Sql.Parser
