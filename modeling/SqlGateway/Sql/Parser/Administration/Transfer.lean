import SqlGateway.Sql.Parser.Property

/-!
# Transfers

Statements that move rows between tables and files.
-/

namespace SqlGateway.Sql.Parser

variable (nested : Nested)

/-! ### Options -/

/-- A text of a single byte. -/
def singleCharacter : Parser Unit := do
  let text ← quotedOrFreeWord
  if text.utf8ByteSize != 1 then mismatch

/-- A string behind `AS` or alone, if it comes next. -/
def optionalString : Parser Unit := do
  discard (keyword? "AS")
  match ← peek with
  | some (.string '\'' _) => discard quotedOrFreeWord
  | _ => return

/-- An option of a transfer, in the list in parentheses. -/
def transferOption : Parser Unit := do
  match ← oneOf ["FORMAT", "FREEZE", "DELIMITER", "NULL", "HEADER", "QUOTE", "ESCAPE",
    "FORCE_QUOTE", "FORCE_NOT_NULL", "FORCE_NULL", "ENCODING"] with
  | "FORMAT" => discard ident
  | "FREEZE" => discard (oneOf? ["TRUE", "FALSE"])
  | "HEADER" => discard (oneOf? ["TRUE", "FALSE"])
  | "DELIMITER" => singleCharacter
  | "QUOTE" => singleCharacter
  | "ESCAPE" => singleCharacter
  | "NULL" => discard quotedOrFreeWord
  | "ENCODING" => discard quotedOrFreeWord
  | _ => discard identList

/-- An option of a file whose fields have separators. -/
def separatedFileOption : Parser Unit := do
  match ← oneOf ["HEADER", "QUOTE", "ESCAPE", "FORCE"] with
  | "HEADER" => return
  | "FORCE" =>
    anyOfKeywords [["NOT", "NULL"], ["QUOTE"]]
    discard (commaList ident)
  | _ =>
    discard (keyword? "AS")
    singleCharacter

/-- The options of a transfer that are words alone. -/
def plainTransferOptions : List String :=
  ["ACCEPTANYDATE", "ADDQUOTES", "ALLOWOVERWRITE", "BINARY", "BLANKSASNULL", "BZIP2", "CLEANPATH",
    "EMPTYASNULL", "ESCAPE", "GZIP", "HEADER", "PARQUET", "REMOVEQUOTES", "TRUNCATECOLUMNS", "ZSTD"]

/-- Who reads or writes the files: the one who is there by default, or one by name. -/
def fileRole : Parser Unit := do
  if ← keyword? "DEFAULT" then return else discard quotedOrFreeWord

/-- The size of a file, with its unit. -/
def fileSize : Parser Unit := do
  discard numberLiteral
  discard (oneOf? ["MB", "GB"])

/-- Whether something is on, if it is said. -/
def switchWord : Parser Unit :=
  discard (oneOf? ["TRUE", "FALSE", "ON", "OFF"])

/-- An option of a transfer that takes more than its word. -/
def fullTransferOption : Parser Unit := do
  match ← oneOf ["ACCEPTINVCHARS", "COMPUPDATE", "CSV", "DATEFORMAT", "DELIMITER", "ENCRYPTED",
    "EXTENSION", "FIXEDWIDTH", "IAM_ROLE", "IGNOREHEADER", "JSON", "MANIFEST", "MAXFILESIZE",
    "NULL", "PARALLEL", "PARTITION", "REGION", "ROWGROUPSIZE", "STATUPDATE", "TIMEFORMAT"] with
  | "COMPUPDATE" =>
    discard (keyword? "PRESET")
    switchWord
  | "CSV" => discard (many (attempt? separatedFileOption))
  | "DELIMITER" =>
    discard (keyword? "AS")
    singleCharacter
  | "ENCRYPTED" => discard (keyword? "AUTO")
  | "EXTENSION" => discard quotedOrFreeWord
  | "FIXEDWIDTH" =>
    discard (keyword? "AS")
    discard quotedOrFreeWord
  | "IAM_ROLE" => fileRole
  | "IGNOREHEADER" =>
    discard (keyword? "AS")
    discard count
  | "MANIFEST" => discard (keyword? "VERBOSE")
  | "MAXFILESIZE" =>
    discard (keyword? "AS")
    fileSize
  | "NULL" =>
    discard (keyword? "AS")
    discard quotedOrFreeWord
  | "PARALLEL" => switchWord
  | "PARTITION" =>
    keyword "BY"
    discard identList
    discard (keyword? "INCLUDE")
  | "REGION" =>
    discard (keyword? "AS")
    discard quotedOrFreeWord
  | "ROWGROUPSIZE" =>
    discard (keyword? "AS")
    fileSize
  | "STATUPDATE" => switchWord
  | _ => optionalString

/-- An option of a transfer, without parentheses. -/
def bareTransferOption : Parser Unit := do
  if ← keyword? "FORMAT" then discard (keyword? "AS")
  match ← oneOf? plainTransferOptions with
  | some _ => return
  | none => fullTransferOption

/-- The options of a transfer, without parentheses. -/
def bareTransferOptions : Parser Unit :=
  discard (many (attempt? bareTransferOption))

/-! ### Statements -/

/-- Drops the rows that are given with a statement, up to the mark of their end. -/
def dropRows : List Token → List Token
  | .symbol "\\" :: .symbol "." :: rest => rest
  | .symbol "\\" :: _ :: rest => dropRows rest
  | _ :: rest => dropRows rest
  | [] => []

/-- What a file is moved to or from. -/
def transferPlace : Parser Unit := do
  discard (keyword? "PROGRAM")
  discard quotedOrFreeWord

/-- `COPY`, after the word. -/
def copyCommand : Parser Unit := do
  if ← nextIsSymbol "(" then
    discard (inParens nested.query)
    keyword "TO"
  else
    discard objectName
    discard (optionalColumns false)
    discard (oneOf ["FROM", "TO"])
  let channel ← oneOf? ["STDIN", "STDOUT"]
  if channel.isNone then transferPlace
  discard (keyword? "WITH")
  if ← nextIsSymbol "(" then discard (inParens (commaList transferOption))
  bareTransferOptions
  if channel = some "STDIN" then
    symbol ";"
    set (dropRows (← get))

/-- `UNLOAD`, after the word: the text of the query whose rows are written. -/
def unloadedText : Parser String := do
  let text ← inParens do
    match ← peek with
    | some (.string '\'' _) => return "'" ++ (← quotedOrFreeWord) ++ "'"
    | _ => queryText nested
  keyword "TO"
  discard ident
  discard (clause? ["IAM_ROLE"] fileRole)
  discard (properties? nested "WITH")
  bareTransferOptions
  return text

/-- `EXPORT`, after the word. -/
def exportCommand : Parser Unit := do
  keyword "DATA"
  discard (clause? ["WITH", "CONNECTION"] objectName)
  if ← someProperties? nested ["OPTIONS"] then
    keyword "AS"
    discard nested.query
  else mismatch

end SqlGateway.Sql.Parser
