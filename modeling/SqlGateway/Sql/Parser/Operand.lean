import SqlGateway.Sql.Parser.Argument
import SqlGateway.Sql.Parser.Precedence

/-!
# Operands

An operand is a literal, a name, a function call, something in parentheses, or a form of its own
that a word begins, such as `CASE` or `CAST`.  If the form does not fit, most such words are plain
names.
-/

namespace SqlGateway.Sql.Parser

variable (nested : Nested)

/-! ### Forms that a word begins -/

/-- `CASE`, after the word. -/
def caseForm : Parser Expr := do
  let operand ←
    if ← keyword? "WHEN" then pure ""
    else do
      let text ← exprText nested
      keyword "WHEN"
      pure (" " ++ text)
  let branch : Parser String := do
    let condition ← exprText nested
    keyword "THEN"
    return " WHEN " ++ condition ++ " THEN " ++ (← exprText nested)
  let first ← branch
  let further ← many do
    if ← keyword? "WHEN" then return some (← branch) else return none
  let otherwise ← clause? ["ELSE"] (exprText nested)
  keyword "END"
  return .other ("CASE" ++ operand ++ first ++ String.join further ++
    clauseText " ELSE " otherwise ++ " END")

/-- How a value is written before or after a cast, if it is said. -/
def castFormat : Parser String := do
  match ← clause? ["FORMAT"] literal with
  | none => return ""
  | some pattern =>
    let zone ← clause? ["AT", "TIME", "ZONE"] literal
    return " FORMAT " ++ pattern.sqlText ++
      clauseText " AT TIME ZONE " (zone.map Literal.sqlText)

/-- `CAST` and its kind, after the word. -/
def castForm (name : String) : Parser Expr := do
  symbol "("
  let operand ← exprText nested
  keyword "AS"
  let target ← dataType
  let pattern ← castFormat
  symbol ")"
  return .other (name ++ "(" ++ operand ++ " AS " ++ target.sqlText ++ pattern ++ ")")

/-- `CONVERT`, after the word. -/
def convertForm : Parser Expr := do
  symbol "("
  let operand ← exprText nested
  if ← keyword? "USING" then
    let charset ← objectName
    symbol ")"
    return .other ("CONVERT(" ++ operand ++ " USING " ++ nameText charset ++ ")")
  else
    symbol ","
    let target ← dataType
    let charset ← clause? ["CHARACTER", "SET"] objectName
    symbol ")"
    return .other ("CONVERT(" ++ operand ++ ", " ++ target.sqlText ++
      clauseText " CHARACTER SET " (charset.map nameText) ++ ")")

/-- `EXISTS`, after the word. -/
def existsForm (negated : Bool) : Parser Expr := do
  let text ← inParens (queryText nested)
  return .other (negationText negated ++ "EXISTS (" ++ text ++ ")")

/-- `EXTRACT`, after the word. -/
def extractForm : Parser Expr := do
  symbol "("
  let part ← oneOf timeFields
  keyword "FROM"
  let operand ← exprText nested
  symbol ")"
  return .other ("EXTRACT(" ++ part ++ " FROM " ++ operand ++ ")")

/-- `CEIL` and `FLOOR`, after the word. -/
def roundingForm (name : String) : Parser Expr := do
  symbol "("
  let operand ← exprText nested
  let detail ←
    if ← keyword? "TO" then do pure (" TO " ++ (← oneOf timeFields))
    else if ← symbol? "," then do
      match ← literal with
      | .number text isLong => pure (", " ++ (Literal.number text isLong).sqlText)
      | _ => mismatch
    else pure ""
  symbol ")"
  return .other (name ++ "(" ++ operand ++ detail ++ ")")

/-- `POSITION`, after the word; without `IN` it is a function. -/
def positionForm (w : Word) : Parser Expr := do
  let form ← attempt? (inParens do
    let part ← nested.expr rangeStrength
    keyword "IN"
    return "POSITION(" ++ part.sqlText ++ " IN " ++ (← exprText nested) ++ ")")
  match form with
  | some text => return .other text
  | none => return .call [w.ident] (← callTail nested)

/-- `SUBSTR` and `SUBSTRING`, after the word. -/
def substringForm (name : String) : Parser Expr := do
  symbol "("
  let operand ← exprText nested
  let commas ← symbol? ","
  let start ←
    if commas then pure (some (← exprText nested))
    else clause? ["FROM"] (exprText nested)
  let length ←
    if ← keyword? "FOR" then pure (some (← exprText nested))
    else if ← symbol? "," then pure (some (← exprText nested))
    else pure none
  symbol ")"
  let (beforeStart, beforeLength) := if commas then (", ", ", ") else (" FROM ", " FOR ")
  return .other (name ++ "(" ++ operand ++ clauseText beforeStart start ++
    clauseText beforeLength length ++ ")")

/-- `OVERLAY`, after the word. -/
def overlayForm : Parser Expr := do
  symbol "("
  let operand ← exprText nested
  keyword "PLACING"
  let insertion ← exprText nested
  keyword "FROM"
  let start ← exprText nested
  let length ← clause? ["FOR"] (exprText nested)
  symbol ")"
  return .other ("OVERLAY(" ++ operand ++ " PLACING " ++ insertion ++ " FROM " ++ start ++
    clauseText " FOR " length ++ ")")

/-- `TRIM`, after the word.  A comma before the closing parenthesis says nothing. -/
def trimForm : Parser Expr := do
  symbol "("
  let side ← oneOf? ["BOTH", "LEADING", "TRAILING"]
  let first ← exprText nested
  let second ← clause? ["FROM"] (exprText nested)
  if second.isNone then discard (symbol? ",")
  symbol ")"
  return .other ("TRIM(" ++ (match side with
    | none => ""
    | some word => word ++ " ") ++ first ++ clauseText " FROM " second ++ ")")

/-- `MATCH`, after the word. -/
def matchForm : Parser Expr := do
  let columns ← inParens (commaList objectName)
  keyword "AGAINST"
  symbol "("
  let value ← literal
  let mode ←
    if ← keywords? ["IN", "NATURAL", "LANGUAGE", "MODE"] then do
      if ← keywords? ["WITH", "QUERY", "EXPANSION"] then
        pure " IN NATURAL LANGUAGE MODE WITH QUERY EXPANSION"
      else pure " IN NATURAL LANGUAGE MODE"
    else if ← keywords? ["IN", "BOOLEAN", "MODE"] then pure " IN BOOLEAN MODE"
    else if ← keywords? ["WITH", "QUERY", "EXPANSION"] then pure " WITH QUERY EXPANSION"
    else pure ""
  symbol ")"
  return .other ("MATCH (" ++ commaText (columns.map nameText) ++ ") AGAINST (" ++ value.sqlText ++
    mode ++ ")")

/-- `NOT` before an operand, after the word. -/
def notForm : Parser Expr := do
  if ← keyword? "EXISTS" then existsForm nested true
  else return .unary .not (← nested.expr notStrength)

/-- A function of the current time, which may go without parentheses. -/
def timeForm (w : Word) : Parser Expr := do
  if ← symbol? "(" then return .call [w.ident] ("(" ++ (← arguments nested) ++ ")")
  else return .call [w.ident] ""

/-- The items of an array after the opening bracket. -/
def arrayItems : Parser String := do
  if ← symbol? "]" then return "[]"
  else
    let items ← commaList nested.fullExpr
    symbol "]"
    return "[" ++ commaText (items.map Expr.sqlText) ++ "]"

/-- `ARRAY` before a bracket or a query, after the word; nothing if neither follows. -/
def arrayForm? (w : Word) : Parser (Option Expr) := do
  if ← symbol? "[" then return some (.other ("ARRAY" ++ (← arrayItems nested)))
  else if ← nextIsSymbol "(" then
    return some (.call [w.ident] ("(" ++ (← inParens (queryText nested)) ++ ")"))
  else return none

/-- The form that a word begins, if it begins one. -/
def specialForm? (w : Word) : Parser (Option Expr) :=
  match w.keyword with
  | "TRUE" => return some (.literal (.bool true))
  | "FALSE" => return some (.literal (.bool false))
  | "NULL" => return some (.literal .null)
  | "CURRENT_TIMESTAMP" => some <$> timeForm nested w
  | "CURRENT_TIME" => some <$> timeForm nested w
  | "CURRENT_DATE" => some <$> timeForm nested w
  | "LOCALTIME" => some <$> timeForm nested w
  | "LOCALTIMESTAMP" => some <$> timeForm nested w
  | "CASE" => some <$> caseForm nested
  | "CONVERT" => some <$> convertForm nested
  | "CAST" => some <$> castForm nested "CAST"
  | "TRY_CAST" => some <$> castForm nested "TRY_CAST"
  | "SAFE_CAST" => some <$> castForm nested "SAFE_CAST"
  | "EXISTS" => some <$> existsForm nested false
  | "EXTRACT" => some <$> extractForm nested
  | "CEIL" => some <$> roundingForm nested "CEIL"
  | "FLOOR" => some <$> roundingForm nested "FLOOR"
  | "POSITION" => do if ← nextIsSymbol "(" then some <$> positionForm nested w else return none
  | "SUBSTR" => some <$> substringForm nested "SUBSTR"
  | "SUBSTRING" => some <$> substringForm nested "SUBSTRING"
  | "OVERLAY" => some <$> overlayForm nested
  | "TRIM" => some <$> trimForm nested
  | "INTERVAL" => some <$> interval nested
  | "ARRAY" => arrayForm? nested w
  | "NOT" => some <$> notForm nested
  | "MATCH" => some <$> matchForm
  | _ => return none

/-- The words that begin a form and are never plain names. -/
def reservedNames : List String := ["EXISTS", "INTERVAL", "STRUCT", "TRIM"]

/-- A word without a form of its own: a function, a string with its character set, or a name. -/
def plainWord (w : Word) : Parser Expr := do
  match ← get with
  | .symbol "(" :: _ => return .call [w.ident] (← callTail nested)
  | .string quote text :: rest =>
    if w.text.toList.head? = some '_' then
      set rest
      return .other (w.ident.sqlText ++ " " ++ quotedText quote text)
    else return .name w.ident
  | .hex text :: rest =>
    if w.text.toList.head? = some '_' then
      set rest
      return .other (w.ident.sqlText ++ " " ++ (Literal.hex text).sqlText)
    else return .name w.ident
  | _ => return .name w.ident

/-- An operand with its collation, if one follows it.  The collation stands at once behind the
operand, before any step into its value. -/
def collated (e : Expr) : Parser Expr := do
  match ← clause? ["COLLATE"] objectName with
  | some collation => return .other (e.sqlText ++ " COLLATE " ++ nameText collation)
  | none => return e

/-- An operand that begins with a word.  Where the word's form does not fit and the word is taken
as a plain name instead, no collation follows it. -/
def wordOperand (w : Word) : Parser Expr := do
  let form : Parser (Option Expr ⊕ Expr) := .inl <$> specialForm? nested w
  let plain : Parser (Option Expr ⊕ Expr) := .inr <$> plainWord nested w
  match ← (if reservedNames.contains w.keyword then form else orInstead form plain) with
  | .inl (some e) => collated e
  | .inl none => collated (← plainWord nested w)
  | .inr e => return e

/-! ### Operands -/

/-- A literal after the name of its type, or a span of time. -/
def typedLiteral : Parser Expr := do
  match ← dataType with
  | .interval => interval nested
  | .custom _ => mismatch
  | .known text => return .other (text ++ " " ++ (← literal).sqlText)

/-- What stands in parentheses, after the opening one. -/
def parenthesized : Parser Expr := do
  if (← nextIsKeyword "SELECT") || (← nextIsKeyword "WITH") then
    let text ← queryText nested
    symbol ")"
    return .subquery text
  else
    let items ← commaList nested.fullExpr
    symbol ")"
    match items with
    | [item] => return .group item
    | _ => return .tuple items

/-- The kinds of time that stand in braces, with their letters. -/
def bracedTimes : List String := ["d", "t", "ts"]

/-- What stands in braces, after the opening one: a function call or a point in time. -/
def braced : Parser Expr := do
  let call ← attempt? do
    keyword "FN"
    return .bracedCall (← objectName) (← callTail nested)
  match call with
  | some e =>
    symbol "\x7d"
    return e
  | none =>
    match ← next with
    | .word w =>
      if bracedTimes.contains w.text && !w.isQuoted then
        let value ← literal
        symbol "\x7d"
        return .other ("\x7b" ++ w.text ++ " " ++ value.sqlText ++ "\x7d")
      else mismatch
    | _ => mismatch

/-- An operand that begins with a symbol, after it. -/
def symbolOperand (spelling : String) : Parser Expr :=
  match spelling with
  | "(" => parenthesized nested
  | "-" => return .unary .minus (← nested.expr productStrength)
  | "+" => return .unary .plus (← nested.expr productStrength)
  | "~" => return .unary .complement (← nested.expr sumStrength)
  | "[" => return .other (← arrayItems nested)
  | "\x7b" => braced nested
  | _ => mismatch

/-- An operand with its collation, without the steps into its value.  A literal after the name of
its type takes no collation. -/
def operand : Parser Expr := do
  match ← attempt? (typedLiteral nested) with
  | some e => return e
  | none =>
    match ← get with
    | .word w :: rest =>
      set rest
      wordOperand nested w
    | .symbol spelling :: rest =>
      set rest
      collated (← symbolOperand nested spelling)
    | _ => collated (.literal (← literal))

end SqlGateway.Sql.Parser
