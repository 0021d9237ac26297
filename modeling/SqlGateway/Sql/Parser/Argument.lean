import SqlGateway.Sql.Parser.DataType

/-!
# Arguments

What stands between the parentheses of a function call, and what may follow it: sort keys, windows
and the treatment of nulls.
-/

namespace SqlGateway.Sql.Parser

variable (nested : Nested)

/-- The text of a nested query. -/
def queryText : Parser String := do
  return (← nested.query).sqlText

/-- The text of a nested expression. -/
def exprText : Parser String := do
  return (← nested.fullExpr).sqlText

/-- The texts of nested expressions with commas between them. -/
def exprTexts : Parser String := do
  return commaText (← commaList (exprText nested))

/-- A sort key. -/
def sortItem : Parser SortItem := do
  let expr ← nested.fullExpr
  let ascending ← oneOf? ["ASC", "DESC"]
  let nullsFirst ←
    if ← keywords? ["NULLS", "FIRST"] then pure (some true)
    else if ← keywords? ["NULLS", "LAST"] then pure (some false)
    else pure none
  return { expr, ascending := ascending.map (· == "ASC"), nullsFirst }

/-- The units of time. -/
def timeUnits : List String :=
  ["YEAR", "YEARS", "MONTH", "MONTHS", "WEEK", "WEEKS", "DAY", "DAYS", "HOUR", "HOURS", "MINUTE",
    "MINUTES", "SECOND", "SECONDS", "CENTURY", "DECADE", "DOW", "DOY", "EPOCH", "ISODOW", "ISOYEAR",
    "JULIAN", "MICROSECOND", "MICROSECONDS", "MILLENIUM", "MILLENNIUM", "MILLISECOND",
    "MILLISECONDS", "NANOSECOND", "NANOSECONDS", "QUARTER", "TIMEZONE", "TIMEZONE_HOUR",
    "TIMEZONE_MINUTE"]

/-- The parts of a point in time, which are the units and a few more. -/
def timeFields : List String :=
  timeUnits ++ ["DAYOFWEEK", "DAYOFYEAR", "DATE", "DATETIME", "ISOWEEK", "TIME", "TIMEZONE_ABBR",
    "TIMEZONE_REGION"]

/-- A text with a blank before it, or nothing. -/
def spacedText (text : String) : String :=
  if text.isEmpty then "" else " " ++ text

/-- A span of time: an expression and a unit, with the precision of the unit and of the fraction of
a second.  Only of seconds both stand in one pair of parentheses. -/
def interval : Parser Expr := do
  let value ← nested.fullExpr
  let unit ← oneOf timeUnits
  let opening := "INTERVAL " ++ value.sqlText ++ " " ++ unit
  if unit = "SECOND" then
    let size ← optionalParens do
      let digits ← count
      if ← symbol? "," then return digits ++ ", " ++ (← count) else return digits
    return .other (opening ++ spacedText size)
  else
    let size ← precision
    let last ← clause? ["TO"] (oneOf timeFields)
    let fraction ← if last = some "SECOND" then precision else pure ""
    return .other (opening ++ spacedText size ++ clauseText " TO " last ++ spacedText fraction)

/-- The star of a qualified name, behind the names before it.  A point that neither a name nor a
star follows is refused. -/
def dottedStar (before : List Ident) :
    List Token → Except ParseFault (Option (List Ident × List Token))
  | .symbol "." :: .symbol "*" :: rest => .ok (some (before, rest))
  | .symbol "." :: .word w :: rest => dottedStar (before ++ [w.ident]) rest
  | .symbol "." :: .string '\'' text :: rest =>
    dottedStar (before ++ [{ text, quote := some '\'' }]) rest
  | .symbol "." :: _ => .error .mismatch
  | _ => .ok none

/-- A star, a qualified star, or an expression. -/
def starOrExpr : Parser SelectItem := do
  let tokens ← get
  let dotted ← match tokens with
    | .word w :: rest => dottedStar [w.ident] rest
    | .string '\'' text :: rest => dottedStar [{ text, quote := some '\'' }] rest
    | _ => pure none
  match dotted with
  | some (name, rest) =>
    set rest
    return .qualifiedStar name
  | none =>
    if ← symbol? "*" then return .star
    else return .expr (← nested.fullExpr) none

/-- The sign or word between the name and the value of an argument. -/
def argumentSign : Parser String := do
  if ← keyword? "VALUE" then return "VALUE"
  else
    symbol "=>"
    return "=>"

/-- An argument of a function, perhaps with a name. -/
def argument : Parser String := do
  let labelled ← attempt? do
    let name ← ident
    let sign ← argumentSign
    let value ← starOrExpr nested
    return name.sqlText ++ " " ++ sign ++ " " ++ value.sqlText
  match labelled with
  | some text => return text
  | none => return (← starOrExpr nested).sqlText

/-- Whether nulls count in a function, if it is said. -/
def nullTreatment : Parser String := do
  match ← oneOf? ["RESPECT", "IGNORE"] with
  | some word =>
    keyword "NULLS"
    return " " ++ word ++ " NULLS"
  | none => return ""

/-- Whether a function takes equal arguments once, if it is said. -/
def duplicateTreatment : Parser String := do
  match ← oneOf? ["ALL", "DISTINCT"] with
  | some "ALL" => if ← keyword? "DISTINCT" then mismatch else return "ALL "
  | some _ => return "DISTINCT "
  | none => return ""

/-- How nulls go into a JSON object, if it is said. -/
def jsonNulls : Parser (List String) := do
  if ← keywords? ["ABSENT", "ON", "NULL"] then return ["ABSENT ON NULL"]
  else if ← keywords? ["NULL", "ON", "NULL"] then return ["NULL ON NULL"]
  else return []

/-- A clause as a text, if its keywords come next. -/
def textClause (opening : List String) (inner : Parser String) : Parser (List String) := do
  match ← clause? opening inner with
  | some text => return [" ".intercalate opening ++ " " ++ text]
  | none => return []

/-- The type that a JSON function gives, if it is said. -/
def jsonType : Parser (List String) :=
  textClause ["RETURNING"] do return (← dataType).sqlText

/-- What is done about a list that becomes too long, if it is said. -/
def overflowClause : Parser (List String) :=
  textClause ["ON", "OVERFLOW"] do
    if ← keyword? "ERROR" then return "ERROR"
    else
      keyword "TRUNCATE"
      let filler ← match ← peek with
        | some (.string '\'' _) => exprText nested
        | some (.national _) => exprText nested
        | some (.hex _) => exprText nested
        | _ => pure ""
      let counting ← oneOf ["WITH", "WITHOUT"]
      keyword "COUNT"
      return "TRUNCATE" ++ spacedText filler ++ " " ++ counting ++ " COUNT"

/-- Sort keys with commas between them, as a text. -/
def sortText : Parser String := do
  return commaText ((← commaList (sortItem nested)).map SortItem.sqlText)

/-- The arguments of a function after the opening parenthesis, up to the closing one. -/
def arguments : Parser String := do
  let nulls ← jsonNulls
  let type ← jsonType
  if ← symbol? ")" then return " ".intercalate (nulls ++ type)
  else
    let duplicates ← duplicateTreatment
    let texts ← commaList (argument nested)
    let order ← textClause ["ORDER", "BY"] (sortText nested)
    let limit ← textClause ["LIMIT"] (exprText nested)
    let separator ← textClause ["SEPARATOR"] do return (← literal).sqlText
    let overflow ← overflowClause nested
    let nullsBehind ← jsonNulls
    let typeBehind ← jsonType
    symbol ")"
    let clauses := nulls ++ type ++ order ++ limit ++ separator ++ overflow ++ nullsBehind ++
      typeBehind
    return duplicates ++ commaText texts ++ spacedText (" ".intercalate clauses)

/-- Where a window begins or ends. -/
def frameBound : Parser String := do
  if ← keywords? ["CURRENT", "ROW"] then return "CURRENT ROW"
  else
    let distance ←
      if ← keyword? "UNBOUNDED" then pure "UNBOUNDED"
      else
        match ← peek with
        | some (.string '\'' _) => do pure (← interval nested).sqlText
        | _ => exprText nested
    return distance ++ " " ++ (← oneOf ["PRECEDING", "FOLLOWING"])

/-- The extent of a window. -/
def frame : Parser String := do
  let unit ← oneOf ["ROWS", "RANGE", "GROUPS"]
  if ← keyword? "BETWEEN" then
    let first ← frameBound nested
    keyword "AND"
    let last ← frameBound nested
    return unit ++ " BETWEEN " ++ first ++ " AND " ++ last
  else return unit ++ " " ++ (← frameBound nested)

/-- A window after the opening parenthesis, up to the closing one.  It may begin with the name of
another window, which is no keyword. -/
def window : Parser String := do
  let name ← match ← get with
    | .word w :: rest =>
      if w.isKeyword then pure []
      else do
        set rest
        pure [w.ident.sqlText]
    | _ => pure []
  let parts ← textClause ["PARTITION", "BY"] (exprTexts nested)
  let order ← textClause ["ORDER", "BY"] (sortText nested)
  if ← symbol? ")" then return " ".intercalate (name ++ parts ++ order)
  else
    let extent ← frame nested
    symbol ")"
    return " ".intercalate (name ++ parts ++ order ++ [extent])

/-- What follows the name of a function, from the opening parenthesis. -/
def callTail : Parser String := do
  symbol "("
  let inner ← arguments nested
  let within ← clause? ["WITHIN", "GROUP"] (inParens do
    keyword "ORDER"
    keyword "BY"
    sortText nested)
  let nulls ← nullTreatment
  let overText ← clause? ["OVER"] do
    if ← symbol? "(" then return "(" ++ (← window nested) ++ ")"
    else return (← ident).sqlText
  return "(" ++ inner ++ ")" ++
    clauseText " WITHIN GROUP (ORDER BY " (within.map (· ++ ")")) ++ nulls ++
    clauseText " OVER " overText

end SqlGateway.Sql.Parser
