import SqlGateway.Sql.Parser.Query

/-!
# Properties

What the statements that the gateway refuses have in common: names that may be there already,
properties with their values, and what else a removal takes with it.  These statements are read only
to tell them from texts that are no statement at all, so nothing of them is kept.
-/

namespace SqlGateway.Sql.Parser

variable (nested : Nested)

/-! ### Names and words -/

/-- Takes `IF EXISTS`. -/
def ifExists : Parser Unit :=
  discard (keywords? ["IF", "EXISTS"])

/-- Takes `IF NOT EXISTS`. -/
def ifNotExists : Parser Unit :=
  discard (keywords? ["IF", "NOT", "EXISTS"])

/-- Takes a sign of equality if it comes next. -/
def optionalEquals : Parser Unit :=
  discard (symbol? "=")

/-- Takes the first of several sequences of keywords that comes next, if one does. -/
def anyOfKeywords? : List (List String) → Parser Bool
  | [] => return false
  | sequence :: sequences => do
    if ← keywords? sequence then return true else anyOfKeywords? sequences

/-- Takes one of several sequences of keywords. -/
def anyOfKeywords (sequences : List (List String)) : Parser Unit := do
  if ← anyOfKeywords? sequences then return else mismatch

/-- Names of things with commas between them. -/
def objectNames : Parser Unit :=
  discard (commaList objectName)

/-- Items with commas between them in parentheses, or none. -/
def listInParens (item : Parser Unit) : Parser Unit := do
  symbol "("
  if !(← symbol? ")") then
    discard (commaList item)
    symbol ")"

/-- Items with a keyword between them. -/
def keywordList (separator : String) (item : Parser Unit) : Parser Unit := do
  item
  discard (many do
    if ← keyword? separator then some <$> item else return none)

/-- The string behind a keyword. -/
def plainString : Parser Unit := do
  match ← next with
  | .string '\'' _ => return
  | _ => mismatch

/-- Takes the group of servers that a statement is for, if it is given. -/
def onCluster : Parser Unit :=
  discard (clause? ["ON", "CLUSTER"] ident)

/-- What else a removal takes with it, if it is said. -/
def removalReach : Parser Unit :=
  discard (oneOf? ["CASCADE", "RESTRICT"])

/-- One who owns things: a name, also one of the words for who is there now. -/
def owner : Parser Unit :=
  discard ident

/-- One who may do something: a name, perhaps with a host. -/
def accountName : Parser Unit := do
  match ← objectName with
  | [_] => if ← symbol? "@" then discard ident
  | _ => return

/-! ### Properties with values -/

/-- A property and its value. -/
def property : Parser Unit := do
  discard ident
  symbol "="
  discard nested.fullExpr

/-- Takes properties in parentheses behind a keyword, and tells whether there are any. -/
def properties? (word : String) : Parser Bool := do
  if ← keyword? word then
    symbol "("
    if ← symbol? ")" then return false
    else
      discard (commaList (property nested))
      symbol ")"
      return true
  else return false

/-- Takes properties behind keywords, of which there is at least one if the keywords come next. -/
def someProperties? (words : List String) : Parser Bool := do
  return (← clause? words (inParens (commaList (property nested)))).isSome

/-- A setting in the list of a user, and such lists in parentheses, with at most `depth` steps. -/
def settingsWithin (endWords : List String) : Nat → Bool → Parser Unit
  | 0, _ => tooDeep
  | depth + 1, isInParens => do
    match ← get with
    | [] => return
    | .symbol ";" :: _ => if isInParens then mismatch
    | .symbol ")" :: rest =>
      if isInParens then set rest else mismatch
    | .symbol "," :: rest =>
      set rest
      settingsWithin endWords depth isInParens
    | .word w :: rest =>
      if endWords.contains w.keyword then return
      else
        set rest
        symbol "="
        match ← next with
        | .string '\'' _ => pure ()
        | .word _ => pure ()
        | .number _ _ => pure ()
        | .symbol "(" =>
          let values ← attempt? do
            if !(← symbol? ")") then
              discard (commaList literal)
              symbol ")"
          if values.isNone then settingsWithin [] depth true
        | _ => mismatch
        settingsWithin endWords depth isInParens
    | _ => mismatch

/-- Settings without parentheses, up to one of the given words or the end of the statement. -/
def settings (endWords : List String) : Parser Unit := do
  settingsWithin endWords ((← get).length + 1) false

/-- Settings in parentheses. -/
def settingsInParens : Parser Unit := do
  symbol "("
  settingsWithin [] ((← get).length + 1) true

/-! ### Sequences of numbers -/

/-- A bound of a sequence, if it is given, or said to be missing. -/
def sequenceBound (word : String) : Parser Unit := do
  if ← keyword? word then discard signedNumber else discard (keywords? ["NO", word])

/-- How a sequence goes on. -/
def sequenceOptions : Parser Unit := do
  if ← keyword? "INCREMENT" then
    discard (keyword? "BY")
    discard signedNumber
  sequenceBound "MINVALUE"
  sequenceBound "MAXVALUE"
  if ← keyword? "START" then
    discard (keyword? "WITH")
    discard signedNumber
  discard (clause? ["CACHE"] signedNumber)
  discard (anyOfKeywords? [["NO", "CYCLE"], ["CYCLE"]])

end SqlGateway.Sql.Parser
