import SqlGateway.Text.Upper

/-!
# Tokens of SQL

A statement is a sequence of words, literals and symbols.  A word that is not quoted may be a
keyword; it carries its spelling in capitals, by which keywords are told.  A symbol is given by its
spelling.  A colon or an at-sign directly before a word or a number is a symbol that can also be
read as the beginning of a parameter.
-/

namespace SqlGateway.Sql

/-- A word: its text, and whether it stands between backticks. -/
structure Word where
  text : String
  isQuoted : Bool
  /-- The text in capitals; empty for a quoted word, which is no keyword. -/
  keyword : String
  deriving DecidableEq, Repr

/-- A word without quotes. -/
def Word.bare (text : List Char) : Word :=
  { text := String.ofList text, isQuoted := false, keyword := String.ofList (Text.upper text) }

/-- A word between backticks. -/
def Word.quoted (text : List Char) : Word :=
  { text := String.ofList text, isQuoted := true, keyword := "" }

/-- A token. -/
inductive Token where
  | word (w : Word)
  /-- A number as written, and whether the letter `L` follows it. -/
  | number (text : String) (isLong : Bool)
  /-- A string between the given quotes. -/
  | string (quote : Char) (text : String)
  /-- A string of bytes between the given quotes. -/
  | bytes (quote : Char) (text : String)
  /-- A string in the national character set. -/
  | national (text : String)
  /-- A string of hexadecimal digits. -/
  | hex (text : String)
  /-- A parameter to be filled in. -/
  | placeholder (text : String)
  /-- A colon or an at-sign with a word or a number right behind it. -/
  | mark (spelling : String)
  | symbol (spelling : String)
  deriving DecidableEq, Repr

/-- Whether a token is the given symbol. -/
def Token.isSymbol (spelling : String) : Token → Bool
  | .symbol s => s == spelling
  | .mark s => s == spelling
  | _ => false

/-- Whether a token is the given keyword. -/
def Token.isKeyword (keyword : String) : Token → Bool
  | .word w => w.keyword == keyword
  | _ => false

end SqlGateway.Sql
