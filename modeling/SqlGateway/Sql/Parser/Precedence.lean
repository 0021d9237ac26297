import SqlGateway.Sql.Parser.Basic

/-!
# Precedence

How strongly operators bind.  An operator whose strength is not greater than that of the operator
before it ends the operand.
-/

namespace SqlGateway.Sql.Parser

/-- The operators that are symbols, by how strongly they bind. -/
def precedenceOf : List (Nat × List String) :=
  [(100, ["."]), (50, ["::", "!", "[", "&&", "^@"]), (40, ["*", "/", "%", "||"]), (30, ["+", "-"]),
    (23, ["&"]), (22, ["^", "<<", ">>"]), (21, ["|"]),
    (20, ["=", "==", ":=", "<", "<=", "!=", "<>", ">", ">=", "<=>", "~", "~*", "!~", "!~*", "~~",
      "~~*", "!~~", "!~~*"]),
    (16, ["->", "->>", "@>", "<@", "@?", "@@"])]

/-- The operators that are words, by how strongly they bind. -/
def wordPrecedenceOf : List (Nat × List String) :=
  [(40, ["DIV"]), (24, ["XOR"]), (20, ["IN", "BETWEEN", "OVERLAPS", "OPERATOR"]),
    (19, ["LIKE", "ILIKE", "RLIKE", "REGEXP", "MATCH", "SIMILAR", "MEMBER"]), (17, ["IS"]),
    (10, ["AND"]), (5, ["OR"])]

/-- The strength of a multiplication, also of a sign. -/
def productStrength : Nat := 40

/-- The strength of a sum, also of a complement. -/
def sumStrength : Nat := 30

/-- The strength of a range. -/
def rangeStrength : Nat := 20

/-- The strength of a pattern match. -/
def likeStrength : Nat := 19

/-- The strength of a negation. -/
def notStrength : Nat := 15

/-- Looks an operator up in a table of strengths. -/
def strengthIn (table : List (Nat × List String)) (operator : String) : Nat :=
  match table.find? fun row => row.2.contains operator with
  | some (strength, _) => strength
  | none => 0

/-- What the strength of `NOT` between operands is: that of the operator behind it. -/
def notStrengthBefore : List Token → Nat
  | .word w :: _ =>
    if w.keyword = "NULL" then 17
    else if ["IN", "BETWEEN", "LIKE", "ILIKE", "RLIKE", "REGEXP", "MATCH", "SIMILAR",
        "MEMBER"].contains w.keyword then
      strengthIn wordPrecedenceOf w.keyword
    else 0
  | _ => 0

/-- How strongly the next token binds; zero if it is no operator. -/
def nextStrength : List Token → Nat
  | .symbol spelling :: _ => strengthIn precedenceOf spelling
  | .word w :: rest =>
    if w.keyword = "NOT" then notStrengthBefore rest
    else if w.keyword = "AT" then
      if (dropKeywords? ["TIME", "ZONE"] rest).isSome then 41 else 0
    else strengthIn wordPrecedenceOf w.keyword
  | _ => 0

end SqlGateway.Sql.Parser
