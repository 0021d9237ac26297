import SqlGateway.Sql.Parser.Document
import SqlGateway.Sql.Parser.Pivot

/-!
# Tables

What rows come from: tables by name with their hints, queries in parentheses, documents, tables that
are turned, and joins.  Only a plain table is kept apart; of everything else the text is kept.
-/

namespace SqlGateway.Sql.Parser

/-! ### Hints -/

/-- Which indexes to use for a table, if it is said. -/
def indexHint? : Parser (Option String) := do
  match ← oneOf? ["USE", "IGNORE", "FORCE"] with
  | none => return none
  | some word =>
    let kind ← oneOf ["INDEX", "KEY"]
    let purpose ←
      if ← keyword? "FOR" then
        if ← keyword? "JOIN" then pure " FOR JOIN"
        else if ← keywords? ["ORDER", "BY"] then pure " FOR ORDER BY"
        else if ← keywords? ["GROUP", "BY"] then pure " FOR GROUP BY"
        else mismatch
      else pure ""
    symbol "("
    let names ← if ← nextIsSymbol ")" then pure [] else commaList ident
    symbol ")"
    return some (word ++ " " ++ kind ++ purpose ++ " (" ++ commaText (names.map Ident.sqlText) ++
      ")")

/-- All such hints; if one does not fit, none is taken. -/
def indexHints : Parser (List String) := do
  return (← attempt? (many indexHint?)).getD []

/-- What is said in parentheses behind `WITH`, if it is said. -/
def tableHints (nested : Nested) : Parser (List String) := do
  match ← get with
  | .word w :: .symbol "(" :: rest =>
    if w.keyword = "WITH" then
      set rest
      let texts ← commaList (exprText nested)
      symbol ")"
      return texts
    else return []
  | _ => return []

/-! ### Tables and joins -/

variable (nested : Nested)

/-- How many rows are taken: a value, or a word in its place, and a unit. -/
def sampleSize : Parser String := do
  let value ← match ← attempt? (exprText nested) with
    | some text => pure text
    | none => do
      match ← next with
      | .word w => pure w.text
      | _ => mismatch
  return value ++ clauseText " " (← oneOf? ["ROWS", "PERCENT"])

/-- Which of several equal parts of the rows is taken. -/
def sampleBucket : Parser String := do
  let part ← numberLiteral
  keyword "OUT"
  keyword "OF"
  let total ← numberLiteral
  let key ← clause? ["ON"] (exprText nested)
  return "BUCKET " ++ part.sqlText ++ " OUT OF " ++ total.sqlText ++ clauseText " ON " key

/-- The share of the rows that is taken, if it is said.  A part of the rows is written behind the
seed. -/
def sample : Parser (Option String) := do
  match ← oneOf? ["TABLESAMPLE", "SAMPLE"] with
  | none => return none
  | some word =>
    let method ← oneOf? ["BERNOULLI", "ROW", "SYSTEM", "BLOCK"]
    let (size, bucket) ←
      if ← symbol? "(" then
        if ← keyword? "BUCKET" then do
          let text ← sampleBucket nested
          symbol ")"
          pure ("", " (" ++ text ++ ")")
        else do
          let text ← sampleSize nested
          symbol ")"
          pure (" (" ++ text ++ ")", "")
      else do pure (" " ++ (← sampleSize nested), "")
    let seed ← match ← oneOf? ["REPEATABLE", "SEED"] with
      | none => pure ""
      | some seedWord => do
        pure (" " ++ seedWord ++ " (" ++ (← inParens numberLiteral).sqlText ++ ")")
    let offset ← clause? ["OFFSET"] (exprText nested)
    return some (word ++ clauseText " " method ++ size ++ seed ++ bucket ++
      clauseText " OFFSET " offset)

/-- The arguments behind a table name after the opening parenthesis, up to the closing one. -/
def tableArguments : Parser (List String) := do
  if ← symbol? ")" then return []
  else
    let texts ← commaList (argument nested)
    symbol ")"
    return texts

/-- A table by name. -/
def namedTable : Parser NamedTable := do
  let name ← objectName
  let partitions ← if ← keyword? "PARTITION" then identList else pure []
  let arguments ← if ← symbol? "(" then some <$> tableArguments nested else pure none
  let ordinality ← keywords? ["WITH", "ORDINALITY"]
  let label ← tableLabel?
  let indexHints ← indexHints
  let hints ← tableHints nested
  return {
    name, partitions, arguments, ordinality, label, indexHints, hints, sample := ← sample nested }

/-- A query in parentheses after the opening one, with the name that it is given. -/
def derivedTable : Parser String := do
  let text ← queryText nested
  symbol ")"
  return "(" ++ text ++ ")" ++ (← tableLabel)

/-- What ties the rows of two tables together. -/
def joinConstraint : Parser String := do
  if ← keyword? "ON" then return " ON " ++ (← exprText nested)
  else if ← keyword? "USING" then
    return " USING(" ++ commaText ((← inParens (commaList objectName)).map nameText) ++ ")"
  else return ""

/-- The words of a join with a constraint, if they come next. -/
def joinWords? : Parser (Option String) := do
  if ← keyword? "JOIN" then return some "JOIN"
  else if ← keyword? "STRAIGHT_JOIN" then return some "STRAIGHT_JOIN"
  else
    match ← oneOf? ["INNER", "LEFT", "RIGHT", "ANTI", "SEMI", "FULL"] with
    | none => return none
    | some "FULL" =>
      let _ ← keyword? "OUTER"
      keyword "JOIN"
      return some "FULL JOIN"
    | some side =>
      let kind ←
        if side = "LEFT" || side = "RIGHT" then oneOf? ["OUTER", "SEMI", "ANTI"] else pure none
      keyword "JOIN"
      return some (side ++ clauseText " " kind ++ " JOIN")

/-- A join, if one comes next. -/
def join? (table : Parser TableFactor) : Parser (Option String) := do
  let scope := if ← keyword? "GLOBAL" then "GLOBAL " else ""
  let tableText : Parser String := do return (← table).sqlText
  if ← keyword? "CROSS" then
    if ← keyword? "APPLY" then return some (" " ++ scope ++ "CROSS APPLY " ++ (← tableText))
    else
      keyword "JOIN"
      let text ← tableText
      return some (" " ++ scope ++ "CROSS JOIN " ++ text ++ (← joinConstraint nested))
  else if ← keyword? "OUTER" then
    keyword "APPLY"
    return some (" " ++ scope ++ "OUTER APPLY " ++ (← tableText))
  else if ← keyword? "ASOF" then
    keyword "JOIN"
    let text ← tableText
    keyword "MATCH_CONDITION"
    let condition ← inParens (exprText nested)
    return some (" " ++ scope ++ "ASOF JOIN " ++ text ++ " MATCH_CONDITION (" ++ condition ++ ")" ++
      (← joinConstraint nested))
  else
    let isNatural ← keyword? "NATURAL"
    match ← joinWords? with
    | none => if isNatural then mismatch else return none
    | some words =>
      let text ← tableText
      if isNatural then return some (" " ++ scope ++ "NATURAL " ++ words ++ " " ++ text)
      else return some (" " ++ scope ++ words ++ " " ++ text ++ (← joinConstraint nested))

/-- A table of a kind, and what is joined to it. -/
def joinedTable (table : Parser TableFactor) : Parser TableSource := do
  let first ← table
  return { table := first, joins := ← many (join? nested table) }

/-- What rows come from, inside at most `depth` parentheses around joins. -/
def tableFactorWithin : Nat → Parser TableFactor
  | 0 => tooDeep
  | depth + 1 => do
    if ← keyword? "LATERAL" then
      if ← symbol? "(" then return .other ("LATERAL " ++ (← derivedTable nested))
      else
        let name ← objectName
        symbol "("
        let texts ← tableArguments nested
        return .other ("LATERAL " ++ nameText name ++ "(" ++ commaText texts ++ ")" ++
          (← tableLabel))
    else if ← keyword? "TABLE" then
      let text ← inParens (exprText nested)
      return .other ("TABLE(" ++ text ++ ")" ++ (← tableLabel))
    else if ← symbol? "(" then
      match ← attempt? (derivedTable nested) with
      | some text => return .other (text ++ String.join (← many (turn? nested)))
      | none =>
        let source ← joinedTable nested (tableFactorWithin depth)
        match source.table, source.joins with
        | .joined _, _ | _, _ :: _ =>
          symbol ")"
          return .joined ("(" ++ source.sqlText ++ ")" ++ (← tableLabel))
        | _, [] => mismatch
    else
      let document? : Option (Parser String × List Token) := match ← get with
        | .word w :: .symbol "(" :: rest => (documentTable? nested w.keyword).map (·, rest)
        | _ => none
      match document? with
      | some (document, rest) =>
        set rest
        let text ← document
        return .other (text ++ (← tableLabel))
      | none =>
        let table := TableFactor.named (← namedTable nested)
        match ← many (turn? nested) with
        | [] => return table
        | turns => return .other (table.sqlText ++ String.join turns)

/-- What rows come from. -/
def tableFactor : Parser TableFactor := do
  tableFactorWithin nested ((← get).length + 1)

/-- A table with what is joined to it. -/
def tableSource : Parser TableSource :=
  joinedTable nested (tableFactor nested)

/-- Tables with commas between them. -/
def tableSources : Parser (List TableSource) :=
  commaList (tableSource nested)

end SqlGateway.Sql.Parser
