import SqlGateway.Sql.Lexer
import SqlGateway.Sql.Parser.Administration.Call
import SqlGateway.Sql.Parser.Administration.Report
import SqlGateway.Sql.Parser.Administration.Right
import SqlGateway.Sql.Parser.Administration.Session
import SqlGateway.Sql.Parser.Administration.Transfer
import SqlGateway.Sql.Parser.Administration.Upkeep
import SqlGateway.Sql.Parser.Definition.Change

/-!
# Statements

A statement is told by its first word.  The gateway serves queries and changes of tables.  Of the
other statements only the first word is kept, by which they are refused.
-/

namespace SqlGateway.Sql.Parser

variable (nested : Nested)

/-! ### Statements that are refused -/

/-- The rest of a statement about settings, transactions or rights, by its first word. -/
def sessionCommand? (word : String) : Option (Parser Unit) :=
  match word with
  | "SET" => some (setCommand nested)
  | "RESET" => some resetCommand
  | "PRAGMA" => some pragmaCommand
  | "DISCARD" => some (discard (oneOf ["ALL", "PLANS", "SEQUENCES", "TEMP", "TEMPORARY"]))
  | "USE" => some (discard objectName)
  | "KILL" => some do
    discard (oneOf? ["CONNECTION", "QUERY"])
    discard count
  | "COMMIT" => some chaining
  | "END" => some chaining
  | "ROLLBACK" => some rollbackCommand
  | "BEGIN" => some do
    discard (oneOf? ["TRANSACTION", "WORK", "TRAN"])
    transactionModes
  | "START" => some do
    keyword "TRANSACTION"
    transactionModes
  | "SAVEPOINT" => some (discard ident)
  | "RELEASE" => some do
    discard (keyword? "SAVEPOINT")
    discard ident
  | "GRANT" => some grantCommand
  | "REVOKE" => some revokeCommand
  | "DENY" => some denyCommand
  | _ => none

/-- The rest of a statement about things as a whole, by its first word. -/
def thingCommand? (word : String) : Option (Parser Unit) :=
  match word with
  | "CREATE" => some (createCommand nested)
  | "DROP" => some (dropCommand nested)
  | "ALTER" => some (alterCommand nested)
  | "RENAME" => some renameCommand
  | "TRUNCATE" => some (truncateCommand nested)
  | "SHOW" => some (showCommand nested)
  | "EXPLAIN" => some (explanation nested)
  | "DESCRIBE" => some (explanation nested)
  | "DESC" => some (explanation nested)
  | "LOCK" => some do
    keyword "TABLES"
    discard (commaList lockedTable)
  | "UNLOCK" => some (keyword "TABLES")
  | "FLUSH" => some flushCommand
  | "ANALYZE" => some (analyzeCommand nested)
  | "VACUUM" => some vacuumCommand
  | "MSCK" => some checkCommand
  | "CACHE" => some (cacheCommand nested)
  | "UNCACHE" => some uncacheCommand
  | "ATTACH" => some (attachCommand nested)
  | "MERGE" => some (discard (mergeCommand nested))
  | "COPY" => some (copyCommand nested)
  | "EXPORT" => some (exportCommand nested)
  | _ => none

/-- The rest of a statement that directs others, by its first word. -/
def flowCommand? (word : String) : Option (Parser Unit) :=
  match word with
  | "CALL" => some (callCommand nested)
  | "EXECUTE" => some (executeCommand nested)
  | "EXEC" => some (executeCommand nested)
  | "PREPARE" => some (prepareCommand nested)
  | "DEALLOCATE" => some do
    discard (keyword? "PREPARE")
    discard ident
  | "DECLARE" => some (declareCommand nested)
  | "OPEN" => some (discard ident)
  | "FETCH" => some fetchCommand
  | "CLOSE" => some closeCommand
  | "IF" => some (ifCommand nested)
  | "CASE" => some (caseCommand nested)
  | "WHILE" => some (whileCommand nested)
  | "RAISE" => some (raiseCommand nested)
  | "ASSERT" => some do
    discard nested.fullExpr
    discard (clause? ["AS"] nested.fullExpr)
  | "PRINT" => some (discard nested.fullExpr)
  | "RETURN" => some (discard (attempt? nested.fullExpr))
  | _ => none

/-- The first word of a text, in capitals. -/
def firstWord (text : String) : String :=
  String.ofList (Text.upper (Text.firstPart text.toList))

/-- A statement that the gateway does not serve, from behind its first word: the first word of its
canonical text.  That is the word itself where a blank follows it in that text. -/
def otherCommand (word : String) : Parser String := do
  let plain := (sessionCommand? nested word).or (thingCommand? nested word)
  match plain.or (flowCommand? nested word), word with
  | some parser, _ =>
    parser
    return if word = "EXEC" then "EXECUTE" else word
  | none, "RAISERROR" => return firstWord ("RAISERROR(" ++ (← raisedMessage nested) ++ ",")
  | none, "UNLOAD" => return firstWord ("UNLOAD(" ++ (← unloadedText nested) ++ ")")
  | none, _ => mismatch

/-! ### Statements -/

/-- A statement. -/
def command : Parser Command := do
  match ← get with
  | .symbol "(" :: _ => return .query (← nested.query)
  | .word w :: rest =>
    if ["SELECT", "WITH", "VALUES"].contains w.keyword then return .query (← nested.query)
    else
      set rest
      match w.keyword with
      | "INSERT" => insertCommand nested false
      | "REPLACE" => insertCommand nested true
      | "UPDATE" => return .update (← updateCommand nested)
      | "DELETE" => return .delete (← deleteCommand nested)
      | word => return .other (← otherCommand nested word)
  | _ => mismatch

end SqlGateway.Sql.Parser

namespace SqlGateway.Sql

/-! ### Texts -/

/-- The parsers for a depth of nesting. -/
def nestedWithin : Nat → Nested
  | 0 => .none
  | depth + 1 =>
    let inner := nestedWithin depth
    { expr := Parser.exprAt inner, query := Parser.query inner, command := Parser.command inner }

/-- How deep a statement may nest. -/
def maxDepth : Nat := 50

/-- Statements with semicolons between them, at most `rounds` of them.  The word `END` behind a
statement ends the text. -/
def Parser.commandsWithin : Nat → Parser (List Command)
  | 0 => Parser.tooDeep
  | rounds + 1 => do
    set ((← get).dropWhile (· == .symbol ";"))
    if (← get).isEmpty then return []
    else
      let first ← (nestedWithin maxDepth).command
      match ← get with
      | [] => return [first]
      | .symbol ";" :: _ => return first :: (← Parser.commandsWithin rounds)
      | token :: _ => if token.isKeyword "END" then return [first] else Parser.mismatch

/-- The statements of a text; nothing if it is no SQL. -/
def Command.ofText? (text : List Char) : Option (List Command) := do
  let tokens ← tokenize? text
  match (Parser.commandsWithin (tokens.length + 1)).run tokens with
  | .ok (commands, _) => some commands
  | .error _ => none

end SqlGateway.Sql
