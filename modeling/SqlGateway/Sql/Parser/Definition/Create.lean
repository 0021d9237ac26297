import SqlGateway.Sql.Parser.Definition.Routine
import SqlGateway.Sql.Parser.Definition.Table

/-!
# Creation

The statements that define things, from behind `CREATE`.
-/

namespace SqlGateway.Sql.Parser

variable (nested : Nested)

/-! ### Views and indexes -/

/-- How a view works and whose rights count, as far as it is said. -/
def viewParameters : Parser Unit := do
  if ← keyword? "ALGORITHM" then
    symbol "="
    discard (oneOf ["UNDEFINED", "MERGE", "TEMPTABLE"])
  if ← keyword? "DEFINER" then
    symbol "="
    accountName
  if ← keywords? ["SQL", "SECURITY"] then discard (oneOf ["DEFINER", "INVOKER"])

/-- A column of a view. -/
def viewColumn : Parser Unit := do
  discard ident
  discard (many (columnProperty? nested))

/-- The definition of a view, after the word. -/
def viewDefinition : Parser Unit := do
  let isEarly ← keywords? ["IF", "NOT", "EXISTS"]
  discard objectName
  if !isEarly then ifNotExists
  if ← nextIsSymbol "(" then listInParens (viewColumn nested)
  discard (properties? nested "WITH")
  discard (clause? ["CLUSTER", "BY"] (optionalColumns false))
  keyword "AS"
  discard nested.query

/-- The definition of an index, after the word. -/
def indexDefinition : Parser Unit := do
  discard (keyword? "CONCURRENTLY")
  let isGuarded ← keywords? ["IF", "NOT", "EXISTS"]
  if isGuarded || !(← keyword? "ON") then
    discard objectName
    discard indexKind?
    keyword "ON"
  discard objectName
  discard indexKind?
  indexColumns nested
  discard (clause? ["INCLUDE"] identList)
  if ← keyword? "NULLS" then
    discard (keyword? "NOT")
    keyword "DISTINCT"
  discard (clause? ["WHERE"] nested.fullExpr)
  indexOptions

/-! ### Databases and schemas -/

/-- The definition of a database, after the word. -/
def databaseDefinition : Parser Unit := do
  ifNotExists
  discard objectName
  discard (many do
    match ← oneOf? ["LOCATION", "MANAGEDLOCATION"] with
    | some _ => some <$> discard quotedOrFreeWord
    | none => return none)
  discard (clause? ["CLONE"] objectName)

/-- The definition of a schema, after the word. -/
def schemaDefinition : Parser Unit := do
  ifNotExists
  if ← keyword? "AUTHORIZATION" then discard ident
  else
    discard objectName
    discard (clause? ["AUTHORIZATION"] ident)
  discard (clause? ["DEFAULT", "COLLATE"] nested.fullExpr)
  discard (properties? nested "WITH")
  discard (properties? nested "OPTIONS")
  discard (clause? ["CLONE"] objectName)

/-! ### Types and sequences -/

/-- The definition of a sequence, after the word. -/
def sequenceDefinition : Parser Unit := do
  ifNotExists
  discard objectName
  discard (clause? ["AS"] dataType)
  sequenceOptions
  discard (clause? ["OWNED", "BY"] objectName)

/-- The definition of a type, after the word. -/
def typeDefinition : Parser Unit := do
  discard objectName
  if ← keyword? "AS" then
    if ← keyword? "ENUM" then listInParens (discard ident)
    else if ← keyword? "RANGE" then listInParens (property nested)
    else
      listInParens do
        discard ident
        discard dataType
        discard (clause? ["COLLATE"] objectName)
  else if ← nextIsSymbol "(" then listInParens (property nested)

/-- The definition of a domain of values, after the word. -/
def domainDefinition : Parser Unit := do
  discard objectName
  keyword "AS"
  discard dataType
  discard (clause? ["COLLATE"] ident)
  discard (clause? ["DEFAULT"] nested.fullExpr)
  discard (many (tableConstraint? nested))

/-! ### Users and access -/

/-- The definition of a user, after the word. -/
def userDefinition : Parser Unit := do
  ifNotExists
  discard ident
  settings ["WITH", "TAG"]
  discard (keyword? "WITH")
  if ← keyword? "TAG" then settingsInParens

/-- Whom a policy is for and what it lets through, as far as it is said. -/
def policyRules : Parser Unit := do
  discard (clause? ["TO"] (commaList owner))
  discard (clause? ["USING"] (inParens nested.fullExpr))
  discard (clause? ["WITH", "CHECK"] (inParens nested.fullExpr))

/-- The definition of a policy, after the word. -/
def policyDefinition : Parser Unit := do
  discard ident
  keyword "ON"
  discard objectName
  discard (clause? ["AS"] (oneOf ["PERMISSIVE", "RESTRICTIVE"]))
  discard (clause? ["FOR"] (oneOf ["ALL", "SELECT", "INSERT", "UPDATE", "DELETE"]))
  policyRules nested

/-- The definition of a secret, after the word. -/
def secretDefinition : Parser Unit := do
  ifNotExists
  if !(← nextIsSymbol "(") then
    if ← keyword? "IN" then discard ident
    else
      discard ident
      discard (clause? ["IN"] ident)
  discard (inParens do
    keyword "TYPE"
    discard ident
    if ← symbol? "," then
      discard (commaList do
        discard ident
        discard ident))

/-! ### Connections and extensions -/

/-- The definition of an extension, after the word. -/
def extensionDefinition : Parser Unit := do
  ifNotExists
  discard ident
  if ← keyword? "WITH" then
    discard (clause? ["SCHEMA"] ident)
    discard (clause? ["VERSION"] ident)
    discard (keyword? "CASCADE")

/-- The definition of a connector, after the word. -/
def connectorDefinition : Parser Unit := do
  ifNotExists
  discard ident
  discard (clause? ["TYPE"] quotedOrFreeWord)
  discard (clause? ["URL"] quotedOrFreeWord)
  if ← keyword? "COMMENT" then
    optionalEquals
    plainString
  discard (someProperties? nested ["WITH", "DCPROPERTIES"])

/-- The definition of a server, after the word. -/
def serverDefinition : Parser Unit := do
  ifNotExists
  discard objectName
  discard (clause? ["TYPE"] ident)
  discard (clause? ["VERSION"] ident)
  keyword "FOREIGN"
  keyword "DATA"
  keyword "WRAPPER"
  discard objectName
  discard (clause? ["OPTIONS"] (inParens (commaList do
    discard ident
    discard ident)))

/-! ### All definitions -/

/-- The definition of a thing that may replace another, by the word for its kind. -/
def replaceableDefinition? (word : String) : Option (Parser Unit) :=
  match word with
  | "TABLE" => some (tableDefinition nested)
  | "POLICY" => some (policyDefinition nested)
  | "EXTERNAL" => some (externalTableDefinition nested)
  | "DOMAIN" => some (domainDefinition nested)
  | "TRIGGER" => some (triggerDefinition nested)
  | "SECRET" => some secretDefinition
  | "USER" => some userDefinition
  | _ => none

/-- The definition of a thing that may not replace another, by the word for its kind. -/
def otherDefinition? (word : String) : Option (Parser Unit) :=
  match word with
  | "EXTENSION" => some extensionDefinition
  | "INDEX" => some (indexDefinition nested)
  | "VIRTUAL" => some virtualTableDefinition
  | "SCHEMA" => some (schemaDefinition nested)
  | "DATABASE" => some databaseDefinition
  | "ROLE" => some do
    ifNotExists
    objectNames
    discard (keyword? "WITH")
  | "SEQUENCE" => some sequenceDefinition
  | "TYPE" => some (typeDefinition nested)
  | "PROCEDURE" => some (procedureDefinition nested)
  | "CONNECTOR" => some (connectorDefinition nested)
  | "SERVER" => some serverDefinition
  | _ => none

/-- A definition of a kind that the next word tells. -/
def definitionBy (kinds : String → Option (Parser Unit)) : Parser Unit := do
  match ← next with
  | .word w =>
    match kinds w.keyword with
    | some parser => parser
    | none => mismatch
  | _ => mismatch

/-- `CREATE`, after the word. -/
def createCommand : Parser Unit := do
  let replaces ← keywords? ["OR", "REPLACE"]
  discard (keywords? ["OR", "ALTER"])
  discard (keyword? "LOCAL")
  discard (keyword? "GLOBAL")
  discard (keyword? "TRANSIENT")
  discard (oneOf? ["TEMP", "TEMPORARY"])
  viewParameters
  if ← anyOfKeywords? [["SECURE", "MATERIALIZED", "VIEW"], ["SECURE", "VIEW"],
      ["MATERIALIZED", "VIEW"], ["VIEW"]] then
    viewDefinition nested
  else if ← keywords? ["CONSTRAINT", "TRIGGER"] then triggerDefinition nested
  else if replaces then definitionBy (replaceableDefinition? nested)
  else if ← keywords? ["UNIQUE", "INDEX"] then indexDefinition nested
  else
    definitionBy fun word =>
      (replaceableDefinition? nested word).or (otherDefinition? nested word)

end SqlGateway.Sql.Parser
