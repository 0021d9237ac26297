import SqlGateway.Sql.Parser.Property

/-!
# Columns, constraints and indexes

The parts of the definition of a table.
-/

namespace SqlGateway.Sql.Parser

variable (nested : Nested)

/-! ### Constraints in general -/

/-- When and whether a constraint is checked, as far as it is said. -/
def constraintChecks : Parser Unit :=
  discard (many do
    if ← anyOfKeywords? [["NOT", "DEFERRABLE"], ["DEFERRABLE"], ["ENFORCED"], ["NOT", "ENFORCED"]]
    then return some ()
    else clause? ["INITIALLY"] (discard (oneOf ["DEFERRED", "IMMEDIATE"])))

/-- What happens to rows that refer to a row that is gone. -/
def referentialAction : Parser Unit :=
  anyOfKeywords [["RESTRICT"], ["CASCADE"], ["SET", "NULL"], ["NO", "ACTION"], ["SET", "DEFAULT"]]

/-- A rule for rows that refer to others, if one comes next. -/
def referenceRule? : Parser (Option Unit) := do
  if ← keyword? "MATCH" then some <$> discard (oneOf ["FULL", "PARTIAL", "SIMPLE"])
  else if ← anyOfKeywords? [["ON", "DELETE"], ["ON", "UPDATE"]] then some <$> referentialAction
  else return none

/-- The rows of another table that rows refer to, after `REFERENCES`. -/
def reference : Parser Unit := do
  discard objectName
  discard (optionalColumns false)
  discard (many referenceRule?)
  constraintChecks

/-! ### Columns -/

/-- A value that is computed, with the word for how it is stored. -/
def computedValue : Parser Unit := do
  discard (inParens nested.fullExpr)
  discard (oneOf? ["STORED", "VIRTUAL"])

/-- The value of a property of a column. -/
def columnValue : Parser Unit := do
  if ← nextIsSymbol "(" then discard (nested.expr 100) else discard nested.fullExpr

/-- How the values of a column arise, after `GENERATED`, if that is said. -/
def generation? : Parser (Option Unit) := do
  if ← anyOfKeywords? [["ALWAYS", "AS", "IDENTITY"], ["BY", "DEFAULT", "AS", "IDENTITY"]] then
    if ← nextIsSymbol "(" then inParens sequenceOptions
    return some ()
  else if ← keywords? ["ALWAYS", "AS"] then
    if ← nextIsSymbol "(" then some <$> computedValue nested else return none
  else return none

/-- Takes words that say nothing of a column here, and then a property, if one comes next. -/
def lateColumnProperty? : Parser (Option Unit) := do
  discard (keyword? "AUTOINCREMENT")
  discard (keyword? "ASC")
  discard (keyword? "DESC")
  if ← keywords? ["ON", "UPDATE"] then some <$> columnValue nested
  else if ← keyword? "GENERATED" then generation? nested
  else if ← keyword? "AS" then some <$> computedValue nested
  else if ← keyword? "SRID" then some <$> columnValue nested
  else
    discard (keyword? "IDENTITY")
    return none

/-- A property of a column, if one comes next. -/
def columnProperty? : Parser (Option Unit) := do
  if ← keywords? ["CHARACTER", "SET"] then some <$> discard objectName
  else if ← keyword? "COLLATE" then some <$> discard objectName
  else if ← keywords? ["NOT", "NULL"] then return some ()
  else if ← keyword? "COMMENT" then some <$> plainString
  else if ← keyword? "NULL" then return some ()
  else if ← keyword? "DEFAULT" then some <$> columnValue nested
  else if ← keywords? ["PRIMARY", "KEY"] then some <$> constraintChecks
  else if ← keyword? "UNIQUE" then
    discard (keyword? "KEY")
    some <$> constraintChecks
  else if ← keyword? "KEY" then some <$> constraintChecks
  else if ← keyword? "REFERENCES" then some <$> reference
  else if ← keyword? "CHECK" then some <$> discard (inParens nested.fullExpr)
  else if ← keyword? "AUTO_INCREMENT" then return some ()
  else lateColumnProperty? nested

/-- A property of a column, perhaps with a name, if one comes next. -/
def namedProperty? : Parser (Option Unit) := do
  if ← keyword? "CONSTRAINT" then
    discard ident
    match ← columnProperty? nested with
    | some _ => return some ()
    | none => mismatch
  else columnProperty? nested

/-- The definition of a column. -/
def columnDefinition : Parser Unit := do
  discard ident
  discard dataType
  discard (many (namedProperty? nested))

/-! ### Indexes -/

/-- The kind of an index, if it is said. -/
def indexKind? : Parser (Option Unit) :=
  clause? ["USING"] (discard ident)

/-- A column of an index: a sort key, with the name of a class of operators in it. -/
def indexColumn : Parser Unit := do
  discard nested.fullExpr
  let isEnd ← match ← peek with
    | some (.word w) => pure (["ASC", "DESC", "NULLS", "WITH"].contains w.keyword)
    | _ => pure false
  if !isEnd then discard (attempt? objectName)
  discard (oneOf? ["ASC", "DESC"])
  discard (anyOfKeywords? [["NULLS", "FIRST"], ["NULLS", "LAST"]])

/-- The columns of an index. -/
def indexColumns : Parser Unit :=
  discard (inParens (commaList (indexColumn nested)))

/-- What else is said of an index. -/
def indexOptions : Parser Unit :=
  discard (many do
    match ← indexKind? with
    | some _ => return some ()
    | none => clause? ["COMMENT"] (discard quotedOrFreeWord))

/-- The kind and the columns of an index, and what else is said of it. -/
def indexBody : Parser Unit := do
  discard indexKind?
  indexColumns nested
  indexOptions

/-! ### Constraints of a table -/

/-- A constraint on a table, if one comes next. -/
def tableConstraint? : Parser (Option Unit) := do
  let isNamed := (← clause? ["CONSTRAINT"] ident).isSome
  if ← keyword? "UNIQUE" then
    discard (oneOf? ["INDEX", "KEY"])
    discard (anyOfKeywords? [["NULLS", "NOT", "DISTINCT"], ["NULLS", "DISTINCT"]])
    discard (attempt? ident)
    indexBody nested
    some <$> constraintChecks
  else if ← keyword? "PRIMARY" then
    keyword "KEY"
    discard (attempt? ident)
    indexBody nested
    some <$> constraintChecks
  else if ← keyword? "FOREIGN" then
    keyword "KEY"
    discard (attempt? ident)
    discard identList
    keyword "REFERENCES"
    some <$> reference
  else if ← keyword? "CHECK" then
    discard (inParens nested.fullExpr)
    discard (anyOfKeywords? [["ENFORCED"], ["NOT", "ENFORCED"]])
    return some ()
  else if isNamed then mismatch
  else if (← oneOf? ["INDEX", "KEY"]).isSome then
    if !(← nextIsKeyword "USING") then discard (attempt? ident)
    some <$> indexBody nested
  else if (← oneOf? ["FULLTEXT", "SPATIAL"]).isSome then
    discard (oneOf? ["INDEX", "KEY"])
    discard (attempt? ident)
    some <$> indexColumns nested
  else return none

end SqlGateway.Sql.Parser
