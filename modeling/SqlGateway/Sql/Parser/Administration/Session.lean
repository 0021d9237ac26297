import SqlGateway.Sql.Parser.Property

/-!
# Sessions

Statements about what a session is in: its transaction and its settings, each from behind its first
word.
-/

namespace SqlGateway.Sql.Parser

variable (nested : Nested)

/-! ### Transactions -/

/-- Whether another transaction follows, if it is said. -/
def chaining : Parser Unit := do
  discard (oneOf? ["TRANSACTION", "WORK", "TRAN"])
  if ← keyword? "AND" then
    discard (keyword? "NO")
    keyword "CHAIN"

/-- The mode of a transaction, if one comes next. -/
def transactionMode? : Parser (Option Unit) := do
  if ← keywords? ["ISOLATION", "LEVEL"] then
    some <$> anyOfKeywords [["READ", "UNCOMMITTED"], ["READ", "COMMITTED"], ["REPEATABLE", "READ"],
      ["SERIALIZABLE"], ["SNAPSHOT"]]
  else if ← anyOfKeywords? [["READ", "ONLY"], ["READ", "WRITE"]] then return some ()
  else return none

/-- At most `rounds` modes of a transaction, at least one if `isNeeded` holds.  A comma may stand
between them, and behind one a mode is needed. -/
def transactionModesWithin : Nat → Bool → Parser Unit
  | 0, _ => return
  | rounds + 1, isNeeded => do
    match ← transactionMode? with
    | some _ => transactionModesWithin rounds (← symbol? ",")
    | none => if isNeeded then mismatch

/-- The modes of a transaction. -/
def transactionModes : Parser Unit := do
  transactionModesWithin ((← get).length + 1) false

/-- `ROLLBACK`, after the word. -/
def rollbackCommand : Parser Unit := do
  chaining
  if ← keyword? "TO" then
    discard (keyword? "SAVEPOINT")
    discard ident

/-! ### Settings -/

/-- The words for how far a setting reaches. -/
def settingReaches : List String :=
  ["SESSION", "LOCAL", "GLOBAL"]

/-- Takes the sign between a setting and its value if it comes next. -/
def settingSign? : Parser Bool := do
  if ← symbol? "=" then return true else keyword? "TO"

/-- The sign between a setting and its value. -/
def settingSign : Parser Unit := do
  if ← settingSign? then return else mismatch

/-- A setting and its value. -/
def setting : Parser Unit := do
  discard (oneOf? settingReaches)
  discard objectName
  settingSign
  discard nested.fullExpr

/-- A value in a list of them: a query, or an expression. -/
def settingValue : Parser Unit := do
  if (← nextIsKeyword "SELECT") || (← nextIsKeyword "WITH") then discard nested.query
  else discard nested.fullExpr

/-- The values of a setting. -/
def settingValues : Parser Unit :=
  discard (commaList (settingValue nested))

/-- The role, after the word. -/
def roleSetting : Parser Unit := do
  if ← keyword? "NONE" then return else discard ident

/-- The character set for names, after `NAMES`. -/
def namesSetting : Parser Unit := do
  if ← keyword? "DEFAULT" then return
  else
    discard ident
    discard (clause? ["COLLATE"] quotedOrFreeWord)

/-- The time zone, after its name. -/
def zoneSetting : Parser Unit := do
  if ← settingSign? then settingValues nested else discard nested.fullExpr

/-- What transactions are like, after `TRANSACTION`. -/
def transactionSetting : Parser Unit := do
  if ← keyword? "SNAPSHOT" then discard literal else transactionModes

/-- Settings by their names: several with a value each, or one with several values. -/
def namedSettings : Parser Unit := do
  match ← attempt? (commaList (setting nested)) with
  | some _ => return
  | none =>
    discard objectName
    settingSign
    settingValues nested

/-- `SET`, after the word. -/
def setCommand : Parser Unit := do
  let isOuter ← keyword? "HIVEVAR"
  if isOuter then symbol ":"
  let beforeReach ← get
  let reach ← if isOuter then pure none else oneOf? settingReaches
  if (← attempt? (clause? ["ROLE"] roleSetting)).join.isSome then return
  else if ← anyOfKeywords? [["TIME", "ZONE"], ["TIMEZONE"]] then zoneSetting nested
  else if ← keyword? "NAMES" then namesSetting
  else if ← keyword? "CHARACTERISTICS" then
    keyword "AS"
    keyword "TRANSACTION"
    transactionModes
  else if ← keyword? "TRANSACTION" then transactionSetting
  else if ← keyword? "AUTHORIZATION" then
    if reach.isNone then mismatch
    else if ← keyword? "DEFAULT" then return
    else discard ident
  else
    set beforeReach
    namedSettings nested

/-- `RESET`, after the word. -/
def resetCommand : Parser Unit := do
  if ← keyword? "ALL" then return else discard objectName

/-- The value of a `PRAGMA`. -/
def pragmaValue : Parser Unit := do
  match ← literal with
  | .string _ _ => return
  | .number _ _ => return
  | .placeholder _ => return
  | _ => mismatch

/-- `PRAGMA`, after the word. -/
def pragmaCommand : Parser Unit := do
  discard objectName
  if ← nextIsSymbol "(" then inParens pragmaValue
  else if ← symbol? "=" then pragmaValue

end SqlGateway.Sql.Parser
