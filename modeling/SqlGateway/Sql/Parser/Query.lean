import SqlGateway.Sql.Parser.Change

/-!
# Queries

A query is a body with a preamble before it and order, bounds and locks behind it.  Bodies are
combined by set operators, of which `INTERSECT` binds most strongly.
-/

namespace SqlGateway.Sql.Parser

variable (nested : Nested)

/-! ### The preamble -/

/-- A named query of a `WITH` clause, as a text. -/
def namedQuery : Parser String := do
  let name ← ident
  let columns ← labelColumns
  keyword "AS"
  let text ← inParens (queryText nested)
  let source ← clause? ["FROM"] ident
  return name.sqlText ++ listText " (" columns ")" ++ " AS (" ++ text ++ ")" ++
    clauseText " FROM " (source.map Ident.sqlText)

/-- A `WITH` clause, as a text. -/
def preamble? : Parser (Option String) :=
  clause? ["WITH"] do
    let isRecursive ← keyword? "RECURSIVE"
    let texts ← commaList (namedQuery nested)
    return (if isRecursive then "WITH RECURSIVE " else "WITH ") ++ commaText texts

/-! ### Bodies -/

/-- The next token, if there is one, taken. -/
def next? : Parser (Option Token) := do
  match ← get with
  | token :: rest =>
    set rest
    return some token
  | [] => return none

/-- The table whose rows are all taken, after `TABLE`.  Three tokens are taken, also where the name
is a single word. -/
def wholeTable : Parser String := do
  let first ← next?
  let second ← next?
  let third ← next?
  match first, second, third with
  | some (.word schema), some (.symbol "."), some (.word table) =>
    return "TABLE " ++ schema.text ++ "." ++ table.text
  | some (.word _), some (.symbol "."), _ => mismatch
  | some (.word table), _, _ => return "TABLE " ++ table.text
  | _, _, _ => mismatch

/-- A body without set operators. -/
def simpleBody : Parser Body := do
  if ← keyword? "SELECT" then return .select (← selectBody nested)
  else if ← symbol? "(" then
    let text ← queryText nested
    symbol ")"
    return .other ("(" ++ text ++ ")")
  else if ← keyword? "VALUES" then return .values (← valuesBody nested "VALUES")
  else if ← keyword? "VALUE" then return .values (← valuesBody nested "VALUE")
  else if ← keyword? "TABLE" then return .other (← wholeTable)
  else mismatch

/-- What a set operator does about equal rows and names, as a text. -/
def setQuantifier : Parser String := do
  if ← keywords? ["DISTINCT", "BY", "NAME"] then return " DISTINCT BY NAME"
  else if ← keywords? ["BY", "NAME"] then return " BY NAME"
  else if ← keywords? ["ALL", "BY", "NAME"] then return " ALL BY NAME"
  else if ← keyword? "ALL" then return " ALL"
  else if ← keyword? "DISTINCT" then return " DISTINCT"
  else return ""

/-- Bodies with set operators of one strength between them. -/
def setOperation (operators : List String) (operand : Parser Body) : Parser Body := do
  let first ← operand
  let further ← many do
    match ← oneOf? operators with
    | none => return none
    | some operator =>
      let quantifier ← setQuantifier
      return some (" " ++ operator ++ quantifier ++ " " ++ (← operand).sqlText)
  if further.isEmpty then return first
  else return .other (first.sqlText ++ String.join further)

/-- A body. -/
def queryBody : Parser Body :=
  setOperation ["UNION", "EXCEPT", "MINUS"] (setOperation ["INTERSECT"] (simpleBody nested))

/-! ### Bounds and locks -/

/-- An offset with the word behind it. -/
def offsetValue : Parser (Expr × String) := do
  let e ← nested.fullExpr
  return (e, clauseText " " (← oneOf? ["ROW", "ROWS"]))

/-- The bounds on the number of rows. -/
def bounds? : Parser (Option Bounds) := do
  let before ← clause? ["OFFSET"] (offsetValue nested)
  if ← keyword? "LIMIT" then
    let limit ← limitValue nested
    let isPair ← if before.isNone && limit.isSome then symbol? "," else pure false
    match limit, isPair with
    | some offset, true => return some (.pair offset (← nested.fullExpr))
    | _, _ =>
      let behind ← if before.isNone then clause? ["OFFSET"] (offsetValue nested) else pure before
      if limit.isNone && behind.isNone then return none
      else return some (.limitOffset limit behind [])
  else return before.map fun offset => .limitOffset none (some offset) []

/-- How many rows are fetched, as a text. -/
def fetchText : Parser String := do
  let _ ← oneOf? ["FIRST", "NEXT"]
  let quantity ← match ← oneOf? ["ROW", "ROWS"] with
    | some _ => pure ""
    | none => do
      let value ← literal
      let unit ← optionalWords ["PERCENT"]
      let _ ← oneOf? ["ROW", "ROWS"]
      pure (value.sqlText ++ unit ++ " ")
  let ending ←
    if ← keyword? "ONLY" then pure "ONLY"
    else if ← keywords? ["WITH", "TIES"] then pure "WITH TIES"
    else pure "ONLY"
  return "FETCH FIRST " ++ quantity ++ "ROWS " ++ ending

/-- A lock after `FOR`. -/
def lock : Parser Lock := do
  let kind ← oneOf ["UPDATE", "SHARE"]
  let table ← clause? ["OF"] objectName
  let nowait ← optionalWords ["NOWAIT"]
  let skipsLocked ← if nowait.isEmpty then keywords? ["SKIP", "LOCKED"] else pure false
  return { text := "FOR " ++ kind ++ clauseText " OF " (table.map nameText) ++ nowait, skipsLocked }

/-- The name of an element in parentheses, in quotes, if it is given. -/
def elementName : Parser String := do
  if ← nextIsSymbol "(" then return "('" ++ (← inParens quotedOrFreeWord) ++ "')" else return ""

/-- An option of the form of a result: the word that tells it, and its text. -/
abbrev FormOption := String × String

/-- Options with a comma before each, taken by `option`. -/
def formOptions (option : Parser FormOption) : Parser (List FormOption) :=
  many do
    if ← symbol? "," then return some (← option) else return none

/-- The texts of options in the order of their words.  Of options with one word the last counts. -/
def formOptionsText (words : List String) (options : List FormOption) : String :=
  String.join ((words.filterMap fun word => options.reverse.lookup word).map (", " ++ ·))

/-- An option that is only a word, of those given; an unknown one takes no tokens. -/
def wordOption (words : List String) : Parser FormOption := do
  match ← oneOf? words with
  | some word => return (word, word)
  | none => return ("", "")

/-- The name of the outermost element, after `ROOT`, as a text. -/
def rootText : Parser String := do
  return "ROOT('" ++ (← inParens quotedOrFreeWord) ++ "')"

/-- A result written as XML, after the word. -/
def xmlForm : Parser String := do
  let shape ← oneOf ["RAW", "AUTO", "EXPLICIT", "PATH"]
  let name ← if shape = "RAW" || shape = "PATH" then elementName else pure ""
  let options ← formOptions do
    if ← keyword? "BINARY" then
      keyword "BASE64"
      return ("BINARY", "BINARY BASE64")
    else if ← keyword? "ROOT" then return ("ROOT", ← rootText)
    else wordOption ["ELEMENTS", "TYPE"]
  return "FOR XML " ++ shape ++ name ++
    formOptionsText ["BINARY", "TYPE", "ROOT", "ELEMENTS"] options

/-- A result written as JSON, after the word. -/
def jsonForm : Parser String := do
  let shape ← oneOf ["AUTO", "PATH"]
  let options ← formOptions do
    if ← keyword? "ROOT" then return ("ROOT", ← rootText)
    else wordOption ["INCLUDE_NULL_VALUES", "WITHOUT_ARRAY_WRAPPER"]
  return "FOR JSON " ++ shape ++
    formOptionsText ["ROOT", "INCLUDE_NULL_VALUES", "WITHOUT_ARRAY_WRAPPER"] options

/-- The form that a result is written in, after `FOR`, if it is one. -/
def resultForm? : Parser (Option String) := do
  if ← keyword? "XML" then some <$> xmlForm
  else if ← keyword? "JSON" then some <$> jsonForm
  else if ← keyword? "BROWSE" then return some "FOR BROWSE"
  else return none

/-- At most `rounds` locks, up to the form of the result, behind which no lock can stand. -/
def locksWithin : Nat → Parser (List Lock)
  | 0 => return []
  | rounds + 1 => do
    if ← keyword? "FOR" then
      match ← resultForm? with
      | some text => return [{ text, skipsLocked := false }]
      | none => return (← lock) :: (← locksWithin rounds)
    else return []

/-- The locks of a query, and the form of its result. -/
def locks : Parser (List Lock) := do
  locksWithin (← get).length

/-! ### Queries -/

/-- A change of a table in place of a body, by its text, if one comes next. -/
def changeBody? : Parser (Option Body) := do
  if ← keyword? "INSERT" then
    match ← insertCommand nested false with
    | .insert i => return some (.other i.sqlText)
    | _ => return some (.other "INSERT")
  else if ← keyword? "UPDATE" then return some (.other (← updateCommand nested).sqlText)
  else if ← keyword? "DELETE" then return some (.other (← deleteCommand nested).sqlText)
  else if ← keyword? "MERGE" then return some (.other (← mergeCommand nested))
  else return none

/-- A query. -/
def query : Parser Query := do
  let preamble ← preamble? nested
  match ← changeBody? nested with
  | some body => return .ofBody preamble body
  | none =>
    let body ← queryBody nested
    let items ← clause? ["ORDER", "BY"] (sortItems nested)
    let order := items.map fun items => { keys := .listed items }
    let bounds ← bounds? nested
    let fetch ← clause? ["FETCH"] fetchText
    return { preamble, body, order, bounds, fetch, locks := ← locks }

end SqlGateway.Sql.Parser
