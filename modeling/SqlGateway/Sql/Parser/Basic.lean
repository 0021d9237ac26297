import SqlGateway.Sql.Ast
import SqlGateway.Sql.Keyword

/-!
# Parsers over tokens

A parser takes tokens from the front and gives a result and the tokens left, or a fault.  A mismatch
can be undone by `attempt?`; a text that nests too deep is refused for good.

Expressions and queries contain each other.  Every step down into a nested expression, query or
command uses up one level of depth; `Nested` holds the parsers for the level below, and the parsers
of one level are built from it.  So the recursion ends with the depth, and each parser is an
ordinary function of its parts.
-/

namespace SqlGateway.Sql

/-- Why tokens are refused. -/
inductive ParseFault where
  | mismatch
  | tooDeep
  deriving DecidableEq, Repr

/-- A parser. -/
abbrev Parser := StateT (List Token) (Except ParseFault)

namespace Parser

/-- Refuses the tokens. -/
def mismatch {α : Type} : Parser α :=
  throw .mismatch

/-- Refuses to go deeper. -/
def tooDeep {α : Type} : Parser α :=
  throw .tooDeep

/-- The next token, which stays. -/
def peek : Parser (Option Token) := do
  return (← get).head?

/-- The next token, taken. -/
def next : Parser Token := do
  match ← get with
  | token :: rest =>
    set rest
    return token
  | [] => mismatch

/-- Runs a parser; a mismatch leaves the tokens as they were. -/
def attempt? {α : Type} (parser : Parser α) : Parser (Option α) := fun tokens =>
  match parser tokens with
  | .ok (value, rest) => .ok (some value, rest)
  | .error .mismatch => .ok (none, tokens)
  | .error .tooDeep => .error .tooDeep

/-- Runs the first parser, and the second instead if that faults and the second does not. -/
def orInstead {α : Type} (first second : Parser α) : Parser α := fun tokens =>
  match first tokens with
  | .ok result => .ok result
  | .error fault =>
    match second tokens with
    | .ok result => .ok result
    | .error _ => .error fault

/-! ### Symbols and keywords -/

/-- Takes a symbol if it comes next. -/
def symbol? (spelling : String) : Parser Bool := do
  match ← get with
  | token :: rest =>
    if token.isSymbol spelling then
      set rest
      return true
    else return false
  | [] => return false

/-- Takes a symbol. -/
def symbol (spelling : String) : Parser Unit := do
  if ← symbol? spelling then return else mismatch

/-- Whether a symbol comes next. -/
def nextIsSymbol (spelling : String) : Parser Bool := do
  return (← peek).any (Token.isSymbol spelling)

/-- Whether a keyword comes next. -/
def nextIsKeyword (keyword : String) : Parser Bool := do
  return (← peek).any (Token.isKeyword keyword)

/-- Takes a keyword if it comes next. -/
def keyword? (keyword : String) : Parser Bool := do
  match ← get with
  | token :: rest =>
    if token.isKeyword keyword then
      set rest
      return true
    else return false
  | [] => return false

/-- The tokens behind a sequence of keywords, if they begin with it. -/
def dropKeywords? : List String → List Token → Option (List Token)
  | [], tokens => some tokens
  | keyword :: keywords, token :: tokens =>
    if token.isKeyword keyword then dropKeywords? keywords tokens else none
  | _ :: _, [] => none

/-- Takes a sequence of keywords if all of them come next. -/
def keywords? (sequence : List String) : Parser Bool := do
  match dropKeywords? sequence (← get) with
  | some rest =>
    set rest
    return true
  | none => return false

/-- Takes a keyword. -/
def keyword (keyword : String) : Parser Unit := do
  if ← keyword? keyword then return else mismatch

/-- Takes one of several keywords if one comes next. -/
def oneOf? (choices : List String) : Parser (Option String) := do
  match ← get with
  | .word w :: rest =>
    if choices.contains w.keyword then
      set rest
      return some w.keyword
    else return none
  | _ => return none

/-- Takes one of several keywords. -/
def oneOf (choices : List String) : Parser String := do
  match ← oneOf? choices with
  | some keyword => return keyword
  | none => mismatch

/-! ### Repetition -/

/-- Repeats a step until it gives nothing, at most `rounds` times. -/
def collect {α : Type} (step : Parser (Option α)) : Nat → Parser (List α)
  | 0 => return []
  | rounds + 1 => do
    match ← step with
    | none => return []
    | some value => return value :: (← collect step rounds)

/-- Repeats a step that takes tokens until it gives nothing. -/
def many {α : Type} (step : Parser (Option α)) : Parser (List α) := do
  collect step (← get).length

/-- One or more items with commas between them. -/
def commaList {α : Type} (item : Parser α) : Parser (List α) := do
  let first ← item
  let further ← many do
    if ← symbol? "," then return some (← item) else return none
  return first :: further

/-- What stands between parentheses. -/
def inParens {α : Type} (inner : Parser α) : Parser α := do
  symbol "("
  let value ← inner
  symbol ")"
  return value

/-- A clause that a keyword introduces, if the keyword comes next. -/
def clause? {α : Type} (opening : List String) (inner : Parser α) : Parser (Option α) := do
  if ← keywords? opening then return some (← inner) else return none

/-! ### Names -/

/-- A name: a word, or a string in quotes. -/
def ident : Parser Ident := do
  match ← next with
  | .word w => return w.ident
  | .string quote text => return { text, quote := some quote }
  | _ => mismatch

/-- Names with points between them. -/
def objectName : Parser (List Ident) := do
  let first ← ident
  let further ← many do
    if ← symbol? "." then return some (← ident) else return none
  return first :: further

/-- Names in parentheses. -/
def identList : Parser (List Ident) :=
  inParens (commaList ident)

/-- Another name for a thing.  After `AS` any word will do; without it, a word that is not reserved;
and in either case a string in quotes. -/
def label? (reserved : List String) : Parser (Option (Bool × Ident)) := do
  let isExplicit ← keyword? "AS"
  match ← get with
  | .word w :: rest =>
    if isExplicit || !reserved.contains w.keyword then
      set rest
      return some (isExplicit, w.ident)
    else return none
  | .string quote text :: rest =>
    set rest
    return some (isExplicit, { text, quote := some quote })
  | _ => if isExplicit then mismatch else return none

/-! ### Literals -/

/-- The strings that directly follow another string and belong to it. -/
def furtherStrings : List Token → String × List Token
  | .string _ text :: rest =>
    let (further, behind) := furtherStrings rest
    (text ++ further, behind)
  | tokens => ("", tokens)

/-- The name of a parameter, behind its mark. -/
def markedName : Parser String := do
  match ← next with
  | .word w => return w.text
  | .number text _ => return text
  | _ => mismatch

/-- A literal. -/
def literal : Parser Literal := do
  match ← next with
  | .word w =>
    if w.keyword = "TRUE" then return .bool true
    else if w.keyword = "FALSE" then return .bool false
    else if w.keyword = "NULL" then return .null
    else mismatch
  | .number text isLong => return .number text isLong
  | .string quote text =>
    let (further, behind) := furtherStrings (← get)
    set behind
    return .string quote (text ++ further)
  | .bytes quote text => return .bytes quote text
  | .national text => return .national text
  | .hex text => return .hex text
  | .placeholder text => return .placeholder text
  | .mark sign => return .placeholder (sign ++ (← markedName))
  | .symbol _ => mismatch

/-- A number, or a parameter in its place. -/
def numberLiteral : Parser Literal := do
  match ← literal with
  | .number text isLong => return .number text isLong
  | .placeholder text => return .placeholder text
  | _ => mismatch

/-- A text as a value of its own: a string in quotes, or a word that is no keyword. -/
def quotedOrFreeWord : Parser String := do
  match ← next with
  | .string _ text => return text
  | .word w => if w.isKeyword then mismatch else return w.text
  | _ => mismatch

end Parser

/-- The parsers for one level of nesting. -/
structure Nested where
  /-- An expression whose operators bind more strongly than the given precedence. -/
  expr : Nat → Parser Expr
  query : Parser Query
  command : Parser Command

/-- An expression with any operators. -/
def Nested.fullExpr (nested : Nested) : Parser Expr :=
  nested.expr 0

/-- At depth zero nothing can be nested. -/
def Nested.none : Nested :=
  { expr := fun _ => Parser.tooDeep, query := Parser.tooDeep, command := Parser.tooDeep }

end SqlGateway.Sql
