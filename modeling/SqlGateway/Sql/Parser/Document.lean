import SqlGateway.Sql.Parser.Label

/-!
# Tables read from documents

A JSON or XML document can be read as a table.  Each of the three forms names the document, the path
to its rows and the columns.  All are read from behind the opening parenthesis and kept as texts,
without the name that the table is given.
-/

namespace SqlGateway.Sql.Parser

variable (nested : Nested)

/-! ### JSON -/

/-- What a column of a JSON table holds where the path leads nowhere or to no value, if said. -/
def jsonFallback? : Parser (Option (Bool × String)) := do
  let handling : Parser (Option String) := do
    if ← keyword? "NULL" then return some "NULL"
    else if ← keyword? "ERROR" then return some "ERROR"
    else if ← keyword? "DEFAULT" then return some ("DEFAULT " ++ (← literal).sqlText)
    else return none
  match ← handling with
  | none => return none
  | some text =>
    keyword "ON"
    if ← keyword? "EMPTY" then return some (true, text)
    else
      keyword "ERROR"
      return some (false, text)

/-- A column of a JSON table, of those nested at most `depth` deep. -/
def jsonColumnWithin : Nat → Parser String
  | 0 => tooDeep
  | depth + 1 => do
    if ← keyword? "NESTED" then
      discard (keyword? "PATH")
      let path ← literal
      keyword "COLUMNS"
      let texts ← inParens (commaList (jsonColumnWithin depth))
      return "NESTED PATH " ++ path.sqlText ++ " COLUMNS (" ++ commaText texts ++ ")"
    else
      let name ← ident
      if ← keyword? "FOR" then
        keyword "ORDINALITY"
        return name.sqlText ++ " FOR ORDINALITY"
      else
        let type ← dataType
        let onlyExists ← if ← keyword? "EXISTS" then pure " EXISTS" else pure ""
        keyword "PATH"
        let path ← literal
        let fallbacks ← many jsonFallback?
        let last (onEmpty : Bool) : Option String :=
          ((fallbacks.filter fun fallback => fallback.1 == onEmpty).map Prod.snd).getLast?
        return name.sqlText ++ " " ++ type.sqlText ++ onlyExists ++ " PATH " ++ path.sqlText ++
          clauseText " " ((last true).map (· ++ " ON EMPTY")) ++
          clauseText " " ((last false).map (· ++ " ON ERROR"))

/-- A table read from JSON, after the opening parenthesis. -/
def jsonTable : Parser String := do
  let value ← exprText nested
  symbol ","
  let path ← literal
  keyword "COLUMNS"
  let texts ← inParens do
    commaList (jsonColumnWithin ((← get).length + 1))
  symbol ")"
  return "JSON_TABLE(" ++ value ++ ", " ++ path.sqlText ++ " COLUMNS(" ++ commaText texts ++ "))"

/-- A column of a table that `OPENJSON` gives. -/
def openJsonColumn : Parser String := do
  let name ← ident
  let type ← dataType
  let path ← match ← get with
    | .string '\'' text :: rest =>
      set rest
      pure (" " ++ quotedText '\'' text)
    | _ => pure ""
  let form ←
    if ← keyword? "AS" then do
      keyword "JSON"
      pure " AS JSON"
    else pure ""
  return name.sqlText ++ " " ++ type.sqlText ++ path ++ form

/-- A table that `OPENJSON` gives. -/
def openJson : Parser String := do
  let value ← exprText nested
  let path ← if ← symbol? "," then do pure (", " ++ (← literal).sqlText) else pure ""
  symbol ")"
  let columns ← clause? ["WITH"] (inParens (commaList openJsonColumn))
  return "OPENJSON(" ++ value ++ path ++ ")" ++
    clauseText " WITH (" (columns.map fun texts => commaText texts ++ ")")

/-! ### XML -/

/-- The names of namespaces, if they are given. -/
def xmlNamespaces : Parser String := do
  let namespaces ← clause? ["XMLNAMESPACES"] do
    let texts ← inParens (commaList do
      let uri ← exprText nested
      keyword "AS"
      return uri ++ " AS " ++ (← ident).sqlText)
    symbol ","
    return commaText texts
  return clauseText "XMLNAMESPACES(" (namespaces.map (· ++ "), "))

/-- A value that is handed to the query for rows. -/
def xmlArgument : Parser String := do
  let byValue ← if ← keyword? "BY" then keyword? "VALUE" else pure false
  let value ← exprText nested
  let name ← clause? ["AS"] ident
  return (if byValue then "BY VALUE " else "") ++ value ++
    clauseText " AS " (name.map Ident.sqlText)

/-- A column of a table that `XMLTABLE` gives. -/
def xmlColumn : Parser String := do
  let name ← ident
  if ← keyword? "FOR" then
    keyword "ORDINALITY"
    return name.sqlText ++ " FOR ORDINALITY"
  else
    let type ← dataType
    let path ← clause? ["PATH"] (exprText nested)
    let fallback ← clause? ["DEFAULT"] (exprText nested)
    let notNull ← optionalWords ["NOT", "NULL"]
    if notNull.isEmpty then discard (keyword? "NULL")
    return name.sqlText ++ " " ++ type.sqlText ++ clauseText " PATH " path ++
      clauseText " DEFAULT " fallback ++ notNull

/-- A table that `XMLTABLE` gives. -/
def xmlTable : Parser String := do
  let namespaces ← xmlNamespaces nested
  let rows ← exprText nested
  let passing ← clause? ["PASSING"] (commaList (xmlArgument nested))
  keyword "COLUMNS"
  let columns ← commaList (xmlColumn nested)
  symbol ")"
  return "XMLTABLE(" ++ namespaces ++ rows ++ clauseText " PASSING " (passing.map commaText) ++
    " COLUMNS " ++ commaText columns ++ ")"

/-- The table that a word begins, if it is read from a document. -/
def documentTable? (word : String) : Option (Parser String) :=
  match word with
  | "JSON_TABLE" => some (jsonTable nested)
  | "OPENJSON" => some (openJson nested)
  | "XMLTABLE" => some (xmlTable nested)
  | _ => none

end SqlGateway.Sql.Parser
