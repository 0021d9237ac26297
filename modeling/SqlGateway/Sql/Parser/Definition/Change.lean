import SqlGateway.Sql.Parser.Definition.Create

/-!
# Changes of definitions

The statements that alter, rename or remove things, and the one that empties a table, from behind
their first words.
-/

namespace SqlGateway.Sql.Parser

variable (nested : Nested)

/-! ### Removal -/

/-- The kinds of things that are removed by names alone. -/
def removable : List String :=
  ["TABLE", "VIEW", "INDEX", "ROLE", "SCHEMA", "DATABASE", "SEQUENCE", "STAGE", "TYPE", "USER",
    "STREAM"]

/-- The removal of things by names, after the word for their kind.  Of roles nothing more can be
said. -/
def namedRemoval (kind : String) : Parser Unit := do
  ifExists
  objectNames
  let reach ← oneOf? ["CASCADE", "RESTRICT"]
  let purges ← keyword? "PURGE"
  if kind = "ROLE" && (reach.isSome || purges) then mismatch
  discard (clause? ["ON"] objectName)

/-- `DROP`, after the word. -/
def dropCommand : Parser Unit := do
  discard (keyword? "TEMPORARY")
  if ← keywords? ["MATERIALIZED", "VIEW"] then namedRemoval "VIEW"
  else
    match ← oneOf? removable with
    | some kind => namedRemoval kind
    | none =>
      let kind ← oneOf ["FUNCTION", "PROCEDURE", "POLICY", "CONNECTOR", "DOMAIN", "SECRET",
        "TRIGGER", "EXTENSION"]
      ifExists
      match kind with
      | "FUNCTION" => discard (commaList (routineName nested))
      | "PROCEDURE" => discard (commaList (routineName nested))
      | "EXTENSION" => discard (commaList ident)
      | "CONNECTOR" => discard ident
      | "DOMAIN" => discard objectName
      | "SECRET" =>
        discard ident
        discard (clause? ["FROM"] ident)
      | "POLICY" =>
        discard ident
        keyword "ON"
        discard objectName
      | _ =>
        discard objectName
        discard (clause? ["ON"] objectName)
      if kind != "CONNECTOR" && kind != "SECRET" then removalReach

/-! ### Alteration of tables -/

/-- Where a column stands among the others, if it is said. -/
def columnPosition : Parser Unit := do
  if ← keyword? "FIRST" then return else discard (clause? ["AFTER"] ident)

/-- Parts of a table, given by expressions in parentheses. -/
def tableParts : Parser Unit :=
  discard (inParens (commaList nested.fullExpr))

/-- What is added to a table, after `ADD`. -/
def tableAddition : Parser Unit := do
  match ← tableConstraint? nested with
  | some _ => discard (keywords? ["NOT", "VALID"])
  | none =>
    ifNotExists
    let parts ← many (clause? ["PARTITION"] (tableParts nested))
    if parts.isEmpty then
      discard (keyword? "COLUMN")
      columnDefinition nested
      columnPosition

/-- What is renamed in a table, after `RENAME`. -/
def tableRenaming : Parser Unit := do
  match ← oneOf? ["TO", "AS"] with
  | some _ => discard objectName
  | none =>
    discard (keyword? "COLUMN")
    discard ident
    keyword "TO"
    discard ident

/-- What is switched off or on in a table, after the word. -/
def tableSwitch (isOn : Bool) : Parser Unit := do
  if ← keywords? ["ROW", "LEVEL", "SECURITY"] then return
  else
    if isOn then discard (oneOf? ["ALWAYS", "REPLICA"])
    discard (oneOf ["RULE", "TRIGGER"])
    discard ident

/-- What is removed from a table, after `DROP`. -/
def tableRemoval : Parser Unit := do
  if ← anyOfKeywords? [["IF", "EXISTS", "PARTITION"], ["PARTITION"]] then tableParts nested
  else if ← keyword? "CONSTRAINT" then
    ifExists
    discard ident
    removalReach
  else if ← keywords? ["PRIMARY", "KEY"] then removalReach
  else if ← keywords? ["FOREIGN", "KEY"] then
    discard ident
    removalReach
  else if ← keyword? "INDEX" then discard ident
  else if ← keywords? ["CLUSTERING", "KEY"] then return
  else
    discard (keyword? "COLUMN")
    ifExists
    discard ident
    removalReach

/-- What is changed of a column, after its name. -/
def columnChange : Parser Unit := do
  if ← anyOfKeywords? [["SET", "NOT", "NULL"], ["DROP", "NOT", "NULL"], ["DROP", "DEFAULT"]] then
    return
  else if ← keywords? ["SET", "DEFAULT"] then discard nested.fullExpr
  else if ← anyOfKeywords? [["SET", "DATA", "TYPE"], ["TYPE"]] then discard dataType
  else
    keyword "ADD"
    keyword "GENERATED"
    discard (anyOfKeywords? [["ALWAYS"], ["BY", "DEFAULT"]])
    keyword "AS"
    keyword "IDENTITY"
    if ← nextIsSymbol "(" then inParens sequenceOptions

/-- The new form of a column: its name, its type, its properties and its position. -/
def columnForm : Parser Unit := do
  discard ident
  discard dataType
  discard (many (columnProperty? nested))
  columnPosition

/-- What tells the rows of a table in a copy. -/
def replicaIdentity : Parser Unit := do
  if ← keywords? ["USING", "INDEX"] then discard ident
  else discard (oneOf ["NONE", "FULL", "DEFAULT"])

/-- One alteration of a table. -/
def alteration : Parser Unit := do
  if ← keyword? "ADD" then tableAddition nested
  else if ← keyword? "RENAME" then tableRenaming
  else if ← keyword? "DISABLE" then tableSwitch false
  else if ← keyword? "ENABLE" then tableSwitch true
  else if ← keyword? "DROP" then tableRemoval nested
  else if ← keyword? "PARTITION" then
    tableParts nested
    keyword "RENAME"
    keyword "TO"
    keyword "PARTITION"
    tableParts nested
  else if ← keyword? "CHANGE" then
    discard (keyword? "COLUMN")
    discard ident
    columnForm nested
  else if ← keyword? "MODIFY" then
    discard (keyword? "COLUMN")
    columnForm nested
  else if ← keyword? "ALTER" then
    discard (keyword? "COLUMN")
    discard ident
    columnChange nested
  else if ← keyword? "SWAP" then
    keyword "WITH"
    discard objectName
  else if ← keywords? ["CLUSTER", "BY"] then tableParts nested
  else if ← anyOfKeywords? [["SUSPEND", "RECLUSTER"], ["RESUME", "RECLUSTER"]] then return
  else if ← keyword? "LOCK" then
    optionalEquals
    discard (oneOf ["DEFAULT", "EXCLUSIVE", "NONE", "SHARED"])
  else if ← keyword? "ALGORITHM" then
    optionalEquals
    discard (oneOf ["DEFAULT", "INSTANT", "INPLACE", "COPY"])
  else if ← keyword? "AUTO_INCREMENT" then
    optionalEquals
    discard numberLiteral
  else if ← keywords? ["REPLICA", "IDENTITY"] then replicaIdentity
  else if ← keywords? ["VALIDATE", "CONSTRAINT"] then discard ident
  else if ← someProperties? nested ["SET", "TBLPROPERTIES"] then return
  else if ← properties? nested "SET" then return
  else mismatch

/-- `ALTER TABLE`, after the words. -/
def alterTable : Parser Unit := do
  ifExists
  discard (keyword? "ONLY")
  discard objectName
  onCluster
  discard (commaList (alteration nested))
  if ← anyOfKeywords? [["LOCATION"], ["SET", "LOCATION"]] then discard ident

/-! ### Alteration of other things -/

/-- `ALTER TYPE`, after the words. -/
def alterType : Parser Unit := do
  discard objectName
  if ← keywords? ["RENAME", "TO"] then discard ident
  else if ← keywords? ["ADD", "VALUE"] then
    ifNotExists
    discard ident
    match ← oneOf? ["BEFORE", "AFTER"] with
    | some _ => discard ident
    | none => return
  else
    keyword "RENAME"
    keyword "VALUE"
    discard ident
    keyword "TO"
    discard ident

/-- `ALTER SCHEMA`, after the words. -/
def alterSchema : Parser Unit := do
  ifExists
  discard objectName
  if ← keywords? ["SET", "DEFAULT", "COLLATE"] then discard nested.fullExpr
  else if ← keyword? "SET" then
    if ← nextIsKeyword "OPTIONS" then discard (properties? nested "OPTIONS") else mismatch
  else if ← keywords? ["ADD", "REPLICA"] then
    discard ident
    discard (properties? nested "OPTIONS")
  else if ← keywords? ["DROP", "REPLICA"] then discard ident
  else if ← keyword? "RENAME" then
    keyword "TO"
    discard objectName
  else
    keyword "OWNER"
    keyword "TO"
    owner

/-- `ALTER POLICY`, after the words. -/
def alterPolicy : Parser Unit := do
  discard ident
  keyword "ON"
  discard objectName
  if ← keyword? "RENAME" then
    keyword "TO"
    discard ident
  else policyRules nested

/-- `ALTER CONNECTOR`, after the words. -/
def alterConnector : Parser Unit := do
  discard ident
  keyword "SET"
  discard (someProperties? nested ["DCPROPERTIES"])
  discard (clause? ["URL"] quotedOrFreeWord)
  if ← keyword? "OWNER" then
    discard (oneOf ["USER", "ROLE"])
    discard ident

/-- `ALTER USER`, after the words. -/
def alterUser : Parser Unit := do
  ifExists
  discard ident
  discard (clause? ["RENAME", "TO"] ident)
  discard (keywords? ["RESET", "PASSWORD"])
  discard (keywords? ["ABORT", "ALL", "QUERIES"])
  discard (keywords? ["ENROLL", "MFA"])
  if ← keyword? "SET" then settings []
  discard (clause? ["UNSET"] (commaList ident))

/-- `ALTER`, after the word. -/
def alterCommand : Parser Unit := do
  match ← oneOf ["TABLE", "ICEBERG", "VIEW", "INDEX", "TYPE", "SCHEMA", "POLICY", "CONNECTOR",
    "USER"] with
  | "TABLE" => alterTable nested
  | "ICEBERG" =>
    keyword "TABLE"
    alterTable nested
  | "VIEW" =>
    discard objectName
    discard (optionalColumns false)
    discard (properties? nested "WITH")
    keyword "AS"
    discard nested.query
  | "INDEX" =>
    discard objectName
    keyword "RENAME"
    keyword "TO"
    discard objectName
  | "TYPE" => alterType
  | "SCHEMA" => alterSchema nested
  | "POLICY" => alterPolicy nested
  | "CONNECTOR" => alterConnector nested
  | _ => alterUser

/-! ### Renaming and emptying -/

/-- `RENAME`, after the word. -/
def renameCommand : Parser Unit := do
  keyword "TABLE"
  discard (commaList do
    discard objectName
    keyword "TO"
    discard objectName)

/-- `TRUNCATE`, after the word. -/
def truncateCommand : Parser Unit := do
  discard (keyword? "TABLE")
  discard (commaList do
    discard (keyword? "ONLY")
    discard objectName
    discard (symbol? "*"))
  discard (clause? ["PARTITION"] (tableParts nested))
  onCluster

end SqlGateway.Sql.Parser
