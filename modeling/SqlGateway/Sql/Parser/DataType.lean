import SqlGateway.Decimal.Digits
import SqlGateway.Sql.Parser.Basic
import SqlGateway.Sql.Text

/-!
# Names of data types

A type before a literal makes a typed literal, and a cast names the type it casts to.  A type is
kept as its canonical text.  A name that is no type of the dialect is a custom type, which may be
cast to but does not make a typed literal.
-/

namespace SqlGateway.Sql

/-- A data type. -/
inductive DataType where
  /-- A type of the dialect, by its text. -/
  | known (text : String)
  /-- A type with a name of its own, by its text. -/
  | custom (text : String)
  /-- A span of time. -/
  | interval

/-- The text of a data type. -/
def DataType.sqlText : DataType → String
  | known text => text
  | custom text => text
  | interval => "INTERVAL"

namespace Parser

/-! ### Parameters -/

/-- A whole number, in plain digits. -/
def count : Parser String := do
  match ← next with
  | .number text _ =>
    match Decimal.readUInt64? text.toList with
    | some n => return toString n
    | none => mismatch
  | _ => mismatch

/-- What stands between parentheses, with them, or nothing if no parenthesis comes next. -/
def optionalParens (inner : Parser String) : Parser String := do
  if ← symbol? "(" then
    let text ← inner
    symbol ")"
    return "(" ++ text ++ ")"
  else return ""

/-- A precision, if it is given. -/
def precision : Parser String :=
  optionalParens count

/-- A whole number, in plain digits, with a sign if it is written with one. -/
def signedCount : Parser String := do
  let isNegative ← symbol? "-"
  if !isNegative then discard (symbol? "+")
  match ← next with
  | .number text _ =>
    match Decimal.readInt64? text.toList with
    | some n => return toString (if isNegative then -n else n)
    | none => mismatch
  | _ => mismatch

/-- A precision and a scale, if they are given. -/
def precisionAndScale : Parser String :=
  optionalParens do
    let digits ← count
    if ← symbol? "," then return digits ++ "," ++ (← signedCount) else return digits

/-- A length with its unit, if it is given. -/
def lengthAndUnit : Parser String :=
  optionalParens do
    if ← keyword? "MAX" then return "MAX"
    else
      let length ← count
      match ← oneOf? ["CHARACTERS", "OCTETS"] with
      | some unit => return length ++ " " ++ unit
      | none => return length

/-- A length, which may be the greatest one, if it is given. -/
def lengthOrMax : Parser String :=
  optionalParens do
    if ← keyword? "MAX" then return "MAX" else count

/-- The word for numbers without a sign, if it comes next. -/
def signedness : Parser String := do
  if ← keyword? "UNSIGNED" then return " UNSIGNED" else return ""

/-- Whether times have a zone, if it is said. -/
def zone : Parser String := do
  if ← keyword? "WITH" then
    keyword "TIME"
    keyword "ZONE"
    return " WITH TIME ZONE"
  else if ← keyword? "WITHOUT" then
    keyword "TIME"
    keyword "ZONE"
    return " WITHOUT TIME ZONE"
  else return ""

/-- A number with an optional sign, or a parameter in its place. -/
def signedNumber : Parser String := do
  let sign ← if ← symbol? "+" then pure "+" else if ← symbol? "-" then pure "-" else pure ""
  return sign ++ (← numberLiteral).sqlText

/-- The members of an enumeration, each perhaps with its number. -/
def enumMembers : Parser String := do
  let texts ← inParens (commaList do
    let name := quotedText '\'' (← quotedOrFreeWord)
    if ← symbol? "=" then return name ++ " = " ++ (← signedNumber) else return name)
  return "(" ++ commaText texts ++ ")"

/-- The members of a set, which are strings. -/
def setMembers : Parser String := do
  let texts ← inParens (commaList do
    match ← next with
    | .string '\'' text => return quotedText '\'' text
    | _ => mismatch)
  return "(" ++ commaText texts ++ ")"

/-! ### Types -/

/-- Types without parameters that are written in capitals. -/
def plainTypes : List String :=
  ["BOOLEAN", "BOOL", "FLOAT4", "FLOAT8", "FLOAT64", "INT64", "HUGEINT", "UTINYINT", "USMALLINT",
    "UBIGINT", "UHUGEINT", "UUID", "DATE", "JSON", "JSONB", "REGCLASS", "TEXT", "TINYTEXT",
    "MEDIUMTEXT", "LONGTEXT", "TINYBLOB", "MEDIUMBLOB", "LONGBLOB", "BYTEA", "TRIGGER"]

/-- Types without parameters that are written with small letters, each with its name in capitals. -/
def smallTypes : List (String × String) :=
  [("FLOAT32", "Float32"), ("INT16", "Int16"), ("INT32", "Int32"), ("INT128", "Int128"),
    ("INT256", "Int256"), ("UINT8", "UInt8"), ("UINT16", "UInt16"), ("UINT32", "UInt32"),
    ("UINT64", "UInt64"), ("UINT128", "UInt128"), ("UINT256", "UInt256"), ("DATE32", "Date32")]

/-- Whole numbers with a display width, of which it may be said that they have a sign. -/
def integerTypes : List String :=
  ["TINYINT", "SMALLINT", "MEDIUMINT", "INT", "INTEGER", "BIGINT"]

/-- Whole numbers with a display width, named for their size. -/
def sizedIntegerTypes : List String :=
  ["INT2", "INT4", "INT8"]

/-- Types with a precision or a size. -/
def sizedTypes : List String :=
  ["CLOB", "BLOB", "BYTES", "VARBIT", "DATETIME", "TIMESTAMPTZ", "TIMESTAMP_NTZ", "TIMETZ",
    "STRING"]

/-- Decimal numbers, with precision and scale. -/
def decimalTypes : List String :=
  ["NUMERIC", "BIGNUMERIC", "BIGDECIMAL"]

/-- Decimal numbers that may be unsigned. -/
def signedDecimalTypes : List String :=
  ["FLOAT", "DECIMAL", "DEC"]

/-- Texts with a length. -/
def textTypes : List String :=
  ["VARCHAR", "NVARCHAR"]

/-- A text of fixed or varying length, or a large one, after its name. -/
def characterType (name : String) : Parser String := do
  if ← keyword? "VARYING" then return name ++ " VARYING" ++ (← lengthAndUnit)
  else if ← keywords? ["LARGE", "OBJECT"] then return name ++ " LARGE OBJECT" ++ (← precision)
  else return name ++ (← lengthAndUnit)

/-- The type that a keyword begins, if it begins one that contains no other type. -/
def typeOf? (name : String) : Option (Parser String) :=
  if plainTypes.contains name then some (return name)
  else if integerTypes.contains name then some do
    let width ← precision
    let unsigned ← signedness
    if unsigned.isEmpty then discard (keyword? "SIGNED")
    return name ++ width ++ unsigned
  else if sizedIntegerTypes.contains name then some do
    let width ← precision
    return name ++ width ++ (← signedness)
  else if sizedTypes.contains name then some do return name ++ (← precision)
  else if decimalTypes.contains name then some do return name ++ (← precisionAndScale)
  else if signedDecimalTypes.contains name then some do
    let digits ← precisionAndScale
    return name ++ digits ++ (← signedness)
  else if textTypes.contains name then some do return name ++ (← lengthAndUnit)
  else
    match name with
    | "REAL" => some do return "REAL" ++ (← signedness)
    | "DOUBLE" => some do
      if ← keyword? "PRECISION" then return "DOUBLE PRECISION" ++ (← signedness)
      else
        let digits ← precisionAndScale
        return "DOUBLE" ++ digits ++ (← signedness)
    | "CHAR" => some (characterType "CHAR")
    | "CHARACTER" => some (characterType "CHARACTER")
    | "BINARY" => some do
      if ← keywords? ["LARGE", "OBJECT"] then return "BINARY LARGE OBJECT" ++ (← precision)
      else return "BINARY" ++ (← precision)
    | "VARBINARY" => some do return "VARBINARY" ++ (← lengthOrMax)
    | "FIXEDSTRING" => some do return "FixedString(" ++ (← inParens count) ++ ")"
    | "BIT" => some do
      if ← keyword? "VARYING" then return "BIT VARYING" ++ (← precision)
      else return "BIT" ++ (← precision)
    | "DATETIME64" => some do
      let parameters ← inParens do
        let digits ← count
        if ← symbol? "," then return digits ++ ", '" ++ (← quotedOrFreeWord) ++ "'"
        else return digits
      return "DateTime64(" ++ parameters ++ ")"
    | "TIME" => some do
      let digits ← precision
      return "TIME" ++ digits ++ (← zone)
    | "TIMESTAMP" => some do
      let digits ← precision
      return "TIMESTAMP" ++ digits ++ (← zone)
    | "ENUM" => some do return "ENUM" ++ (← enumMembers)
    | "ENUM8" => some do return "ENUM8" ++ (← enumMembers)
    | "ENUM16" => some do return "ENUM16" ++ (← enumMembers)
    | "SET" => some do return "SET" ++ (← setMembers)
    | "SIGNED" => some do
      if ← keyword? "INTEGER" then return "SIGNED INTEGER" else return "SIGNED"
    | "UNSIGNED" => some do
      if ← keyword? "INTEGER" then return "UNSIGNED INTEGER" else return "UNSIGNED"
    | _ => (smallTypes.lookup name).map fun text => return text

/-- The parameters of a custom type up to the closing parenthesis; commas between them are free. -/
def modifiers : List Token → Option (List String × List Token)
  | .symbol ")" :: rest => some ([], rest)
  | .symbol "," :: rest => modifiers rest
  | .word w :: rest =>
    (modifiers rest).map fun (texts, behind) => (w.ident.sqlText :: texts, behind)
  | .number text _ :: rest => (modifiers rest).map fun (texts, behind) => (text :: texts, behind)
  | .string '\'' text :: rest => (modifiers rest).map fun (texts, behind) => (text :: texts, behind)
  | _ => none

/-- A type with a name of its own. -/
def customType : Parser DataType := do
  let name ← objectName
  if ← symbol? "(" then
    match modifiers (← get) with
    | some (texts, rest) =>
      set rest
      if texts.isEmpty then return .custom (nameText name)
      else return .custom (nameText name ++ "(" ++ commaText texts ++ ")")
    | none => mismatch
  else return .custom (nameText name)

/-- A data type of at most `depth` types within each other, and whether the bracket that closes the
type around it has been taken along with its own. -/
def dataTypeWithin : Nat → Parser (DataType × Bool)
  | 0 => tooDeep
  | depth + 1 => do
    match ← get with
    | .word w :: rest =>
      match w.keyword with
      | "INTERVAL" =>
        set rest
        return (.interval, false)
      | "ARRAY" =>
        set rest
        symbol "<"
        let (element, isClosed) ← dataTypeWithin depth
        let closesOuter ←
          if isClosed then pure false
          else if ← symbol? ">" then pure false
          else do
            symbol ">>"
            pure true
        return (.known ("ARRAY<" ++ element.sqlText ++ ">"), closesOuter)
      | "TABLE" =>
        set rest
        if ← nextIsSymbol "(" then
          let texts ← inParens (commaList do
            let column ← ident
            let (type, closesOuter) ← dataTypeWithin depth
            if closesOuter then mismatch
            return column.sqlText ++ " " ++ type.sqlText)
          return (.known ("TABLE(" ++ commaText texts ++ ")"), false)
        else return (.known "TABLE", false)
      | name =>
        if name = "ANY" && rest.head?.any (Token.isKeyword "TYPE") then
          set (rest.drop 1)
          return (.known "ANY TYPE", false)
        else
          match typeOf? name with
          | some parser =>
            set rest
            return (.known (← parser), false)
          | none => return (← customType, false)
    | _ => mismatch

/-- A data type. -/
def dataType : Parser DataType := do
  let (type, closesOuter) ← dataTypeWithin ((← get).length + 1)
  if closesOuter then mismatch else return type

end Parser

end SqlGateway.Sql
