import SqlGateway.Sql.Parser.Operand

/-!
# Expressions

An expression is an operand, perhaps with steps into its value, followed by operators of decreasing
strength.
-/

namespace SqlGateway.Sql.Parser

variable (nested : Nested)

/-! ### Parts of a value -/

/-- A step into a value. -/
inductive Link where
  | dot (e : Expr)
  | index (text : String)

/-- The text of a step. -/
def Link.sqlText : Link → String
  | dot e => "." ++ e.sqlText
  | index text => "[" ++ text ++ "]"

/-- The name in a step, if it is a name. -/
def Link.name? : Link → Option Ident
  | dot (.name id) => some id
  | _ => none

/-- The steps that an expression behind a point amounts to. -/
def linksOf : Expr → List Link
  | .qualified parts => parts.map fun id => .dot (.name id)
  | e => [.dot e]

/-- An index or a range of them, after the opening bracket up to the closing one.  Of a range both
ends may be left out, and a stride may follow. -/
def subscript : Parser String := do
  let lower ← if ← symbol? ":" then pure none else some <$> exprText nested
  if ← symbol? "]" then return lower.getD ":"
  else
    if lower.isSome then symbol ":"
    let opening := lower.getD "" ++ ":"
    if ← symbol? "]" then return opening
    else
      let upper ← exprText nested
      if ← symbol? "]" then return opening ++ upper
      else
        symbol ":"
        if ← symbol? "]" then return opening ++ upper
        else
          let stride ← exprText nested
          symbol "]"
          return opening ++ upper ++ ":" ++ stride

/-- The steps that come next; nothing if none does.  A star behind a point is not taken. -/
def links? : Parser (Option (List Link)) := do
  match ← get with
  | .symbol "." :: .symbol "*" :: _ => return none
  | .symbol "." :: .string '\'' text :: rest =>
    set rest
    return some [.dot (.name { text, quote := some '\'' })]
  | .symbol "." :: rest =>
    set rest
    return some (linksOf (← nested.expr 100))
  | .symbol "[" :: rest =>
    set rest
    return some [.index (← subscript nested)]
  | _ => return none

/-- The expression for steps into a value: names make a qualified name or the name of a function. -/
def joinLinks (root : Expr) (links : List Link) : Expr :=
  let text := .access (root.sqlText ++ String.join (links.map Link.sqlText))
  match root with
  | .name id =>
    match links.mapM Link.name? with
    | some [] => root
    | some names => .qualified (id :: names)
    | none =>
      match links.getLast?, links.dropLast.mapM Link.name? with
      | some (.dot (.call name tail)), some names => .call (id :: names ++ name) tail
      | some (.dot (.bracedCall name tail)), some names => .bracedCall (id :: names ++ name) tail
      | _, _ => text
  | _ => if links.isEmpty then root else text

/-- An operand with the steps into it. -/
def fullOperand : Parser Expr := do
  let root ← operand nested
  let links ← many (links? nested)
  return joinLinks root links.flatten

/-! ### Operators -/

/-- The operators that are symbols, as they are kept. -/
def symbolOperator? (spelling : String) : Option BinaryOp :=
  match spelling with
  | "=" => some .eq
  | "==" => some .eq
  | "!=" => some .neq
  | "<>" => some .neq
  | ">" => some .gt
  | ">=" => some .gte
  | "<" => some .lt
  | "<=" => some .lte
  | _ =>
    if ["<=>", ":=", "+", "-", "*", "/", "%", "||", "|", "^", "&", "~", "~*", "!~", "!~*", "~~",
        "~~*", "!~~", "!~~*", "->", "->>", "@>", "<@", "@?", "@@"].contains spelling then
      some (.other spelling)
    else none

/-- The operators that are words and take an operand on each side, as they are kept. -/
def wordOperator? (keyword : String) : Option BinaryOp :=
  match keyword with
  | "AND" => some .and
  | "OR" => some .or
  | "XOR" => some (.other "XOR")
  | "OVERLAPS" => some (.other "OVERLAPS")
  | _ => none

/-- Whether an operator can be applied to any or all of several values. -/
def isQuantifiable : BinaryOp → Bool
  | .and => false
  | .or => false
  | .other spelling =>
    ["~", "~*", "!~", "!~*", "~~", "~~*", "!~~", "!~~*"].contains spelling
  | _ => true

/-- The right side of an operator, perhaps with a quantifier. -/
def binary (left : Expr) (op : BinaryOp) (strength : Nat) : Parser Expr := do
  match ← oneOf? ["ANY", "ALL", "SOME"] with
  | none => return .binary left op (← nested.expr strength)
  | some quantifier =>
    let isQuery := match ← get with
      | .symbol "(" :: token :: _ => token.isKeyword "SELECT" || token.isKeyword "WITH"
      | _ => false
    let right ←
      if isQuery then nested.expr strength
      else inParens (nested.expr strength)
    if isQuantifiable op then
      let text := match right with
        | .subquery _ => right.sqlText
        | _ => "(" ++ right.sqlText ++ ")"
      return .other (left.sqlText ++ " " ++ op.sqlText ++ " " ++ quantifier ++ text)
    else mismatch

/-- What follows `IS`. -/
def isForm (left : Expr) : Parser Expr := do
  let negated ← keyword? "NOT"
  let text := left.sqlText ++ " IS " ++ negationText negated
  if ← keyword? "NULL" then return .isNull left negated
  else if ← keyword? "TRUE" then return .isBool left true negated
  else if ← keyword? "FALSE" then return .isBool left false negated
  else if ← keyword? "UNKNOWN" then return .other (text ++ "UNKNOWN")
  else if ← keywords? ["DISTINCT", "FROM"] then
    return .other (text ++ "DISTINCT FROM " ++ (← exprText nested))
  else
    let form ← oneOf? ["NFC", "NFD", "NFKC", "NFKD"]
    keyword "NORMALIZED"
    return .other (text ++ (match form with
      | none => ""
      | some name => name ++ " ") ++ "NORMALIZED")

/-- What follows `IN`. -/
def inForm (left : Expr) (negated : Bool) : Parser Expr := do
  let opening := left.sqlText ++ " " ++ negationText negated ++ "IN "
  if ← keyword? "UNNEST" then
    return .other (opening ++ "UNNEST(" ++ (← inParens (exprText nested)) ++ ")")
  else
    inParens do
      match ← attempt? (queryText nested) with
      | some text => return .other (opening ++ "(" ++ text ++ ")")
      | none => return .inList left (← commaList nested.fullExpr) negated

/-- What follows `LIKE` or `ILIKE`. -/
def likeForm (left : Expr) (negated caseless : Bool) : Parser Expr := do
  let any ← keyword? "ANY"
  let pattern ← nested.expr likeStrength
  let escape ← clause? ["ESCAPE"] literal
  return .like left pattern escape negated caseless any

/-- What follows a word operator with forms of its own, perhaps after `NOT`. -/
def matchOperator (left : Expr) : Parser Expr := do
  let negated ← keyword? "NOT"
  let opening := left.sqlText ++ " " ++ negationText negated
  let regexp ← keyword? "REGEXP"
  let rlike ← keyword? "RLIKE"
  let null ← keyword? "NULL"
  if regexp || rlike then
    return .other (opening ++ (if regexp then "REGEXP " else "RLIKE ") ++
      (← nested.expr likeStrength).sqlText)
  else if negated && null then return .isNull left true
  else if ← keyword? "IN" then inForm nested left negated
  else if ← keyword? "BETWEEN" then
    let low ← nested.expr rangeStrength
    keyword "AND"
    return .between left low (← nested.expr rangeStrength) negated
  else if ← keyword? "LIKE" then likeForm nested left negated false
  else if ← keyword? "ILIKE" then likeForm nested left negated true
  else if ← keywords? ["SIMILAR", "TO"] then
    let pattern ← nested.expr likeStrength
    let escape ← clause? ["ESCAPE"] literal
    return .other (opening ++ "SIMILAR TO " ++ pattern.sqlText ++
      clauseText " ESCAPE " (escape.map Literal.sqlText))
  else mismatch

/-- An operator and what follows it. -/
def operator (left : Expr) (strength : Nat) : Parser Expr := do
  match ← get with
  | .symbol "::" :: rest =>
    set rest
    return .other (left.sqlText ++ "::" ++ (← dataType).sqlText)
  | .symbol spelling :: rest =>
    match symbolOperator? spelling with
    | some op =>
      set rest
      binary nested left op strength
    | none => mismatch
  | .word w :: rest =>
    match wordOperator? w.keyword with
    | some op =>
      set rest
      binary nested left op strength
    | none =>
      match w.keyword with
      | "DIV" =>
        set rest
        return .binary left (.other "DIV") (← nested.fullExpr)
      | "IS" =>
        set rest
        isForm nested left
      | "AT" =>
        set (rest.drop 2)
        return .other (left.sqlText ++ " AT TIME ZONE " ++ (← nested.expr strength).sqlText)
      | "MEMBER" =>
        set rest
        keyword "OF"
        return .other (left.sqlText ++ " MEMBER OF(" ++ (← inParens (exprText nested)) ++ ")")
      | _ => matchOperator nested left
  | _ => mismatch

/-- Takes operators as long as they bind more strongly than `strength`, at most `rounds` of them. -/
def operators (strength : Nat) : Nat → Expr → Parser Expr
  | 0, left => return left
  | rounds + 1, left => do
    let found := nextStrength (← get)
    if found ≤ strength || (← nextIsSymbol ".") then return left
    else operators strength rounds (← operator nested left found)

/-- An expression whose operators bind more strongly than `strength`. -/
def exprAt (strength : Nat) : Parser Expr := do
  let left ← fullOperand nested
  operators nested strength (← get).length left

end SqlGateway.Sql.Parser
