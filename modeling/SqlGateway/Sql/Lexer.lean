import SqlGateway.Sql.Token
import SqlGateway.Text.Blank
import SqlGateway.Text.Doubled
import SqlGateway.Text.Hex
import SqlGateway.Text.Step
import SqlGateway.Text.Word

/-!
# Reading tokens

A text is cut into lexemes from the left: blanks, among them comments, and tokens.  Each is as long
as it can be.  What a digit or a point begins depends on the lexeme before it, because a name may
begin with digits and a point may separate two names.  A character that begins nothing else is a
symbol, so only a string or a comment without an end keeps a text from being cut.
-/

namespace SqlGateway.Sql

open Text

/-- A piece of a text. -/
inductive Lexeme where
  /-- What separates tokens: a blank character or a comment. -/
  | blank
  | token (t : Token)

namespace Lexeme

/-- Whether a lexeme is a word. -/
def isWord : Lexeme → Bool
  | token (.word _) => true
  | _ => false

/-- Whether a lexeme is a point between names. -/
def isPoint : Lexeme → Bool
  | token (.symbol ".") => true
  | _ => false

end Lexeme

/-- One step: a lexeme and the text behind it, or nothing if the text cannot be read. -/
abbrev LexStep := Option (Lexeme × List Char)

/-! ### Words -/

/-- Whether a character may begin a word: a letter, one of three signs, or any character beyond
ASCII. -/
def isWordStart (c : Char) : Bool :=
  c.isAlpha || c == '_' || c == '$' || c == '@' || 128 ≤ c.val

/-- Whether a character may stand in a word. -/
def isWordPart (c : Char) : Bool :=
  isWordStart c || c.isDigit

/-- A bare word that begins with the given characters. -/
def lexWord (front rest : List Char) : LexStep :=
  some (.token (.word (.bare (front ++ rest.takeWhile isWordPart))), rest.dropWhile isWordPart)

/-! ### Strings -/

/-- The characters for what follows a backslash.  Before a wildcard the backslash stays. -/
def unescaped : Char → List Char
  | '0' => ['\x00']
  | 'a' => ['\x07']
  | 'b' => ['\x08']
  | 'f' => ['\x0c']
  | 'n' => ['\n']
  | 'r' => ['\r']
  | 't' => ['\t']
  | 'Z' => ['\x1a']
  | '%' => ['\\', '%']
  | '_' => ['\\', '_']
  | c => [c]

/-- The contents of a string after its opening quote, in which a backslash escapes, and what
follows the string.  A backslash at the very end leaves the string open. -/
def lexEscaped? (quote : Char) : List Char → Option (List Char × List Char)
  | [] => none
  | [c] => if c = quote then some ([], []) else none
  | c :: d :: rest =>
    if c = quote then
      if d = quote then
        (lexEscaped? quote rest).map fun (text, behind) => (quote :: text, behind)
      else some ([], d :: rest)
    else if c = '\\' then
      (lexEscaped? quote rest).map fun (text, behind) => (unescaped d ++ text, behind)
    else
      (lexEscaped? quote (d :: rest)).map fun (text, behind) => (c :: text, behind)

/-- A string with escapes, as the token that `make` gives. -/
def lexString (make : String → Token) (quote : Char) (rest : List Char) : LexStep :=
  (lexEscaped? quote rest).map fun (text, behind) => (.token (make (String.ofList text)), behind)

/-- A string without escapes, as the token that `make` gives. -/
def lexPlainString (make : List Char → Token) (quote : Char) (rest : List Char) : LexStep :=
  (readQuoted? quote rest).map fun (text, behind) => (.token (make text), behind)

/-! ### Numbers -/

/-- The exponent of a number: a letter, at most one sign, and digits. -/
def lexExponent? : List Char → Option (List Char × List Char)
  | e :: sign :: rest =>
    if sign = '+' || sign = '-' then
      let digits := rest.takeWhile Char.isDigit
      if digits.isEmpty then none else some (e :: sign :: digits, rest.dropWhile Char.isDigit)
    else
      let digits := (sign :: rest).takeWhile Char.isDigit
      if digits.isEmpty then none
      else some (e :: digits, (sign :: rest).dropWhile Char.isDigit)
  | _ => none

/-- A number with an exponent; behind a point it is a name. -/
def finishExponent (before : Option Lexeme) (text rest : List Char) : LexStep :=
  if before.any Lexeme.isPoint then some (.token (.word (.bare text)), rest)
  else
    match rest with
    | 'L' :: behind => some (.token (.number (String.ofList text) true), behind)
    | _ => some (.token (.number (String.ofList text) false), rest)

/-- What follows the digits of a number: an exponent, or letters that make a name of it. -/
def finishNumber (before : Option Lexeme) (text : List Char) : List Char → LexStep
  | [] => some (.token (.number (String.ofList text) false), [])
  | c :: rest =>
    if c = 'e' || c = 'E' then
      match lexExponent? (c :: rest) with
      | some (exponent, behind) => finishExponent before (text ++ exponent) behind
      | none => finishExponent before text (c :: rest)
    else if isWordPart c then lexWord text (c :: rest)
    else some (.token (.number (String.ofList text) false), c :: rest)

/-- What a digit or a point begins: a number, a name, or a point between names. -/
def lexNumber (before : Option Lexeme) (text : List Char) : LexStep :=
  let whole := text.takeWhile Char.isDigit
  let rest := text.dropWhile Char.isDigit
  let afterWord := before.any Lexeme.isWord
  match whole, rest with
  | ['0'], 'x' :: behind =>
    some (.token (.hex (String.ofList (behind.takeWhile isHexDigit))),
      behind.dropWhile isHexDigit)
  | [], '.' :: '_' :: behind =>
    if afterWord then some (.token (.symbol "."), '_' :: behind) else none
  | _, '.' :: behind =>
    let fraction := behind.takeWhile Char.isDigit
    if whole.isEmpty && (afterWord || fraction.isEmpty) then some (.token (.symbol "."), behind)
    else finishNumber before (whole ++ '.' :: fraction) (behind.dropWhile Char.isDigit)
  | _, _ => finishNumber before whole rest

/-! ### Comments -/

/-- A comment up to the end of the line. -/
def lexLineComment (rest : List Char) : LexStep :=
  some (.blank, (rest.dropWhile (· != '\n')).drop 1)

/-- What follows the end of a comment, of which the opening has been read. -/
def skipComment? : List Char → Option (List Char)
  | [] => none
  | [_] => none
  | c :: d :: rest => if c = '*' && d = '/' then some rest else skipComment? (d :: rest)

/-! ### Symbols -/

/-- The symbols of more than one character; no symbol comes before one that it begins. -/
def longSymbols : List String :=
  ["->>", "->", "||/", "||", "|/", "=>", "==", "!=", "!!", "!~~*", "!~~", "!~*", "!~", "<=>", "<=",
    "<>", "<<", "<@", ">=", ">>", "::", ":=", "&&", "^@", "~~*", "~~", "~*"]

/-- A symbol.  Any character is one if it begins no longer one. -/
def lexSymbol (text : List Char) : LexStep :=
  match longSymbols.findSome? fun s =>
      (dropWord? s.toList text).map fun rest => (Lexeme.token (.symbol s), rest) with
  | some found => some found
  | none =>
    match text with
    | c :: rest => some (.token (.symbol (String.singleton c)), rest)
    | [] => none

/-- What follows an at-sign: the rest of an operator, or a word that takes the next character
whatever it is.  Before a blank or a quote the sign stands alone. -/
def lexAt : List Char → LexStep
  | ['@'] => some (.token (.symbol "@@"), [])
  | '@' :: ' ' :: rest => some (.token (.symbol "@@"), ' ' :: rest)
  | '@' :: c :: rest => lexWord ['@', '@', c] rest
  | '>' :: rest => some (.token (.symbol "@>"), rest)
  | '?' :: rest => some (.token (.symbol "@?"), rest)
  | c :: rest =>
    if c = ' ' || c = '\'' || c = '"' || c = '\x60' then some (.token (.symbol "@"), c :: rest)
    else lexWord ['@', c] rest
  | [] => some (.token (.symbol "@"), [])

/-! ### The whole text -/

/-- The lexeme at the front of a text. -/
def lexOne (before : Option Lexeme) : List Char → LexStep
  | [] => none
  | c :: rest =>
    if c = ' ' || c = '\t' || c = '\n' || c = '\r' then some (.blank, rest)
    else if c = '\'' || c = '"' then lexString (.string c) c rest
    else if c = '\x60' then lexPlainString (fun text => .word (.quoted text)) c rest
    else if c.isDigit || c = '.' then lexNumber before (c :: rest)
    else
      match c, rest with
      -- two hyphens are a comment only before a blank
      | '-', '-' :: d :: behind =>
        if isBlank d then lexLineComment (d :: behind) else lexSymbol (c :: rest)
      | '#', _ => lexLineComment rest
      | '/', '*' :: behind => (skipComment? behind).map fun afterwards => (.blank, afterwards)
      -- a letter right before a quote says what kind of string it is
      | 'b', '\'' :: behind =>
        lexPlainString (fun text => .bytes '\'' (String.ofList text)) '\'' behind
      | 'B', '\'' :: behind =>
        lexPlainString (fun text => .bytes '\'' (String.ofList text)) '\'' behind
      | 'b', '"' :: behind =>
        lexPlainString (fun text => .bytes '"' (String.ofList text)) '"' behind
      | 'B', '"' :: behind =>
        lexPlainString (fun text => .bytes '"' (String.ofList text)) '"' behind
      | 'n', '\'' :: behind => lexString .national '\'' behind
      | 'N', '\'' :: behind => lexString .national '\'' behind
      | 'x', '\'' :: behind => lexString .hex '\'' behind
      | 'X', '\'' :: behind => lexString .hex '\'' behind
      | '?', _ =>
        some (.token (.placeholder (String.ofList ('?' :: rest.takeWhile isNumeric))),
          rest.dropWhile isNumeric)
      | '@', _ => lexAt rest
      | _, _ =>
        if isWordStart c then lexWord [c] rest
        else if isBlank c then some (.blank, rest)
        else lexSymbol (c :: rest)

/-- The lexemes of a text, at most `rounds` of them, in order. -/
def lexAll? : Nat → Option Lexeme → List Char → Option (List Lexeme)
  | _, _, [] => some []
  | 0, _, _ :: _ => none
  | rounds + 1, before, text =>
    match lexOne before text with
    | none => none
    | some (lexeme, rest) =>
      (lexAll? rounds (some lexeme) rest).map fun further => lexeme :: further

/-- Whether the text goes on with a word, or with a number without `L`, right away. -/
def beginsName : List Lexeme → Bool
  | .token (.word _) :: _ => true
  | .token (.number _ isLong) :: _ => !isLong
  | _ => false

/-- The tokens among lexemes.  A colon or an at-sign with a name or number right behind it is a
mark. -/
def tokensOf : List Lexeme → List Token
  | [] => []
  | .token (.symbol spelling) :: rest =>
    let isMark := (spelling == ":" || spelling == "@") && beginsName rest
    (if isMark then .mark spelling else .symbol spelling) :: tokensOf rest
  | .token t :: rest => t :: tokensOf rest
  | .blank :: rest => tokensOf rest

/-- The tokens of a text, if it can be cut into tokens. -/
def tokenize? (text : List Char) : Option (List Token) :=
  (lexAll? text.length none text).map tokensOf

end SqlGateway.Sql
